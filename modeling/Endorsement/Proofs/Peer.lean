import Endorsement.Peer
import Endorsement.Proofs.Text.Decimal
import Mathlib.Data.List.Infix

/-!
# Hosts of endpoints

The host of a peer is cut out of its endpoint at the first `://` and at the last `:`.
Hosts may have colons of their own, as long as a port follows.

* `afterScheme?_append`, `beforePort?_append`: where the cuts are;
* `Endpoint`: the endpoints of a host, with a scheme and a port or without;
* `Endpoint.host_eq`: the host of such an endpoint is that host;
* `Endpoint.address`: the host with a number for its port is such an endpoint again.
-/

namespace Endorsement

/-- What separates a scheme from what follows it. -/
def schemeSeparator : List Char := [':', '/', '/']

namespace Peer

/-! ## Cutting endpoints -/

variable {before rest : List Char}

/-- A character that does not begin a separator is passed. -/
theorem afterScheme?_cons {c : Char} (h : ∀ after, c :: rest ≠ ':' :: '/' :: '/' :: after) :
    afterScheme? (c :: rest) = afterScheme? rest := by
  rw [afterScheme?]
  rintro after rfl rfl
  exact h after rfl

theorem afterScheme?_eq_none (h : '/' ∉ rest) : afterScheme? rest = none := by
  induction rest with
  | nil => rfl
  | cons c rest ih =>
    rw [List.mem_cons, not_or] at h
    rw [afterScheme?_cons, ih h.2]
    rintro after heq
    obtain ⟨-, rfl⟩ := List.cons.inj heq
    exact h.2 List.mem_cons_self

/-- A text without a separator is passed, if no slash follows: else a colon at its end
    could begin one. -/
theorem afterScheme?_append (hbefore : ¬schemeSeparator <:+: before)
    (hrest : ∀ after, rest ≠ '/' :: after) :
    afterScheme? (before ++ rest) = afterScheme? rest := by
  induction before with
  | nil => rfl
  | cons c before ih =>
    have hrec : ¬schemeSeparator <:+: before :=
      fun h => hbefore (h.trans (List.suffix_cons c before).isInfix)
    rw [List.cons_append, afterScheme?_cons, ih hrec]
    intro after heq
    obtain ⟨rfl, hslashes⟩ := List.cons.inj heq
    -- A separator here would lie in `before`, or its slashes would reach into `rest`.
    rcases before with - | ⟨x, - | ⟨y, before⟩⟩
    · exact hrest _ hslashes
    · exact hrest _ (List.cons.inj hslashes).2
    · simp only [List.cons_append, List.cons.injEq] at hslashes
      obtain ⟨rfl, rfl, -⟩ := hslashes
      exact hbefore (List.prefix_append schemeSeparator before).isInfix

theorem afterScheme?_separator (h : ¬schemeSeparator <:+: before) :
    afterScheme? (before ++ schemeSeparator ++ rest) = some rest := by
  rw [List.append_assoc, afterScheme?_append h]
  · rfl
  · rintro after ⟨⟩

theorem afterScheme?_port (hbefore : ¬schemeSeparator <:+: before) (hrest : '/' ∉ rest) :
    afterScheme? (before ++ ':' :: rest) = none := by
  have hslash : '/' ∉ ':' :: rest := by simpa using hrest
  rw [afterScheme?_append hbefore, afterScheme?_eq_none hslash]
  rintro after heq
  exact hslash (heq ▸ List.mem_cons_self)

theorem not_separator_of_no_colon (h : ':' ∉ before) : ¬schemeSeparator <:+: before :=
  fun hsep => h (hsep.subset List.mem_cons_self)

theorem afterScheme?_of_no_colon (h : ':' ∉ before) : afterScheme? before = none := by
  rw [← List.append_nil before, afterScheme?_append (not_separator_of_no_colon h)]
  · rfl
  · rintro after ⟨⟩

theorem beforePort?_eq_none (h : ':' ∉ rest) : beforePort? rest = none := by
  induction rest with
  | nil => rfl
  | cons c rest ih =>
    rw [List.mem_cons, not_or] at h
    simp only [beforePort?, ih h.2]
    exact if_neg (Ne.symm h.1)

/-- A text is cut at the last of its colons. -/
theorem beforePort?_append (h : ':' ∉ rest) :
    beforePort? (before ++ ':' :: rest) = some before := by
  induction before with
  | nil => simp [beforePort?, beforePort?_eq_none h]
  | cons c before ih => simp only [List.cons_append, beforePort?, ih]

/-! ## Endpoints -/

/-- The endpoints of a host. A host without a port has no colons. -/
inductive Endpoint (host : String) : String → Prop where
  | schemeAndPort {scheme port : String} (hscheme : ¬schemeSeparator <:+: scheme.toList)
      (hhost : ¬schemeSeparator <:+: host.toList) (hport : ':' ∉ port.toList)
      (hslash : '/' ∉ port.toList) : Endpoint host (scheme ++ "://" ++ host ++ ":" ++ port)
  | port {port : String} (hhost : ¬schemeSeparator <:+: host.toList) (hport : ':' ∉ port.toList)
      (hslash : '/' ∉ port.toList) : Endpoint host (host ++ ":" ++ port)
  | scheme {scheme : String} (hscheme : ¬schemeSeparator <:+: scheme.toList)
      (hhost : ':' ∉ host.toList) : Endpoint host (scheme ++ "://" ++ host)
  | bare (hhost : ':' ∉ host.toList) : Endpoint host host

variable {peer : Peer} {host : String}

theorem host_eq_of_cuts (address : List Char)
    (haddress : (afterScheme? peer.url.toList).getD peer.url.toList = address)
    (hhost : (beforePort? address).getD address = host.toList) : peer.host = host := by
  subst haddress
  rw [Peer.host, hhost, String.ofList_toList]

/-- The host of an endpoint is what it is an endpoint of. -/
theorem Endpoint.host_eq (h : Endpoint host peer.url) : peer.host = host := by
  generalize hurl : peer.url = url at h
  replace hurl := congrArg String.toList hurl
  induction h with
  | @schemeAndPort scheme port hscheme _ hport _ =>
    have hparts : peer.url.toList =
        scheme.toList ++ schemeSeparator ++ (host.toList ++ ':' :: port.toList) := by
      simpa [schemeSeparator] using hurl
    refine host_eq_of_cuts (host.toList ++ ':' :: port.toList) ?_ ?_
    · rw [hparts, afterScheme?_separator hscheme, Option.getD_some]
    · rw [beforePort?_append hport, Option.getD_some]
  | @port port hhost hport hslash =>
    have hparts : peer.url.toList = host.toList ++ ':' :: port.toList := by simpa using hurl
    refine host_eq_of_cuts (host.toList ++ ':' :: port.toList) ?_ ?_
    · rw [hparts, afterScheme?_port hhost hslash, Option.getD_none]
    · rw [beforePort?_append hport, Option.getD_some]
  | @scheme scheme hscheme hhost =>
    have hparts : peer.url.toList = scheme.toList ++ schemeSeparator ++ host.toList := by
      simpa [schemeSeparator] using hurl
    refine host_eq_of_cuts host.toList ?_ ?_
    · rw [hparts, afterScheme?_separator hscheme, Option.getD_some]
    · rw [beforePort?_eq_none hhost, Option.getD_none]
  | bare hhost =>
    refine host_eq_of_cuts host.toList ?_ ?_
    · rw [hurl, afterScheme?_of_no_colon hhost, Option.getD_none]
    · rw [beforePort?_eq_none hhost, Option.getD_none]

/-- A host that has an endpoint has one at every numbered port. -/
theorem Endpoint.address {url : String} (h : Endpoint host url) (port : Nat) :
    Endpoint host (host ++ ":" ++ toString port) := by
  have hhost : ¬schemeSeparator <:+: host.toList := by
    cases h with
    | schemeAndPort _ hhost => exact hhost
    | port hhost => exact hhost
    | scheme _ hhost => exact not_separator_of_no_colon hhost
    | bare hhost => exact not_separator_of_no_colon hhost
  refine .port hhost (fun hcolon => ?_) fun hslash => ?_
  · exact absurd (Text.isDigit_of_mem_toString hcolon) (by decide)
  · exact absurd (Text.isDigit_of_mem_toString hslash) (by decide)

end Peer

end Endorsement
