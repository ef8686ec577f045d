/-!
# Letters without case

Names of settings are compared without regard to the case of the letters
`A` to `Z`. No other character changes, so a name with an accented or foreign
letter never turns into a known one.

* `Text.lower`: the text with `A` to `Z` in lower case;
* `Text.isOff`, `Text.isOn`: how a switch is read from text. These agree with a
  comparison after mapping every letter of every script to lower case: no
  letter outside of `A` to `Z` maps to a letter of `true` or `false`.
-/

namespace Endorsement.Text

/-- The text with the letters `A` to `Z` in lower case. -/
def lower (text : String) : String :=
  String.ofList (text.toList.map Char.toLower)

/-- A switch that is on unless it says otherwise is off for `0` and for `false`
    in any case. -/
def isOff (text : String) : Bool :=
  lower text == "false" || text == "0"

/-- A switch that is off unless it says otherwise is on for `1` and for `true`
    in any case. -/
def isOn (text : String) : Bool :=
  lower text == "true" || text == "1"

end Endorsement.Text
