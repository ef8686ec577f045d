import Endorsement.Proofs.Wire.Format
import Mathlib.Data.List.Basic

/-!
# The parts of the wire format

The decoders of the format take off exactly what its encoders write. This is
shown for each part of the format, and passed on to what is made of parts.

* `Yields`: a property of whatever a decoder takes off;
* `Takes.pure`, `Takes.bind`: what a decoder made of others takes off;
* `littleEndian_eq`: numbers are written as described;
* `takes_number`, `takes_decodeList`, `takes_decodeOption`, `takes_decodeForm`:
  what the decoders of the parts take off;
* `Lawful` for bytes, numbers, texts, lists and missing values;
* `Lawful.record`, `Lawful.forms`: the law of a type from its fields or forms.
-/

namespace Endorsement.Wire

variable {α β : Type}

/-! ## Decoders in sequence -/

theorem bind_eq_ok_iff {x : Decoder α} {f : α → Decoder β} {bytes rest : List UInt8} {b : β} :
    (x >>= f) bytes = .ok (b, rest) ↔
      ∃ a mid, x bytes = .ok (a, mid) ∧ f a mid = .ok (b, rest) := by
  change (x bytes >>= fun r => f r.1 r.2) = _ ↔ _
  cases x bytes with
  | error fault => simp [bind, Except.bind]
  | ok r =>
    obtain ⟨a, mid⟩ := r
    simp [bind, Except.bind]

/-- Whatever a decoder takes off has the property `Q`. -/
def Yields (x : Decoder α) (Q : α → Prop) : Prop :=
  ∀ bytes rest a, x bytes = .ok (a, rest) → Q a

namespace Yields

theorem pure {a : α} {Q : α → Prop} (h : Q a) : Yields (pure a) Q := by
  rintro bytes rest b heq
  obtain ⟨rfl, rfl⟩ := Prod.mk.inj (Except.ok.inj heq)
  exact h

theorem throw {fault : Fault} {Q : α → Prop} : Yields (throw fault) Q := by
  intro bytes rest a heq
  cases heq

theorem bind {x : Decoder α} {f : α → Decoder β} {Q : β → Prop} (hf : ∀ a, Yields (f a) Q) :
    Yields (x >>= f) Q := by
  intro bytes rest b heq
  obtain ⟨a, mid, -, hb⟩ := bind_eq_ok_iff.1 heq
  exact hf a mid rest b hb

/-- What a decoder never yields it never takes off. -/
theorem takes {x : Decoder α} {Q : α → Prop} (hx : Yields x Q) {a : α} {P : Prop}
    {used : List UInt8} (hQ : ¬Q a) (hP : ¬P) : Takes x a P used :=
  fun _ _ => iff_of_false (fun heq => hQ (hx _ _ a heq)) fun h => hP h.1

end Yields

namespace Takes

theorem congr {x : Decoder α} {a : α} {P Q : Prop} {used used' : List UInt8}
    (h : Takes x a P used) (hP : P ↔ Q) (hused : used = used') : Takes x a Q used' := by
  intro bytes rest
  rw [h, hP, hused]

/-- A decoder that takes nothing off makes its value and no other. -/
theorem pure {a b : α} {P : Prop} (h : b = a ↔ P) : Takes (pure a) b P [] := by
  intro bytes rest
  change Except.ok (a, bytes) = _ ↔ _
  rw [Except.ok.injEq, Prod.mk.injEq, List.nil_append, ← h, eq_comm (a := a)]

theorem throw {fault : Fault} {a : α} {P : Prop} {used : List UInt8} (h : ¬P) :
    Takes (throw fault) a P used :=
  (Yields.throw (Q := fun _ => False)).takes id h

/-- A decoder that goes on after another takes off what both do. That the whole
    value comes from a part `a₀` of it, and from no other, is `E`. -/
theorem bind {x : Decoder α} {f : α → Decoder β} {P : α → Prop} {enc : α → List UInt8} {b : β}
    {E Q : Prop} {used : List UInt8} (a₀ : α) (hx : ∀ a, Takes x a (P a) (enc a))
    (hf : ∀ a, P a → Takes (f a) b ((E ∧ a = a₀) ∧ Q) used) :
    Takes (x >>= f) b (E ∧ P a₀ ∧ Q) (enc a₀ ++ used) := by
  intro bytes rest
  rw [bind_eq_ok_iff]
  constructor
  · rintro ⟨a, mid, ha, hb⟩
    obtain ⟨hP, rfl⟩ := (hx a _ _).1 ha
    obtain ⟨⟨⟨hE, rfl⟩, hQ⟩, rfl⟩ := (hf a hP _ _).1 hb
    exact ⟨⟨hE, hP, hQ⟩, by rw [List.append_assoc]⟩
  · rintro ⟨⟨hE, hP, hQ⟩, rfl⟩
    refine ⟨a₀, used ++ rest, (hx a₀ _ _).2 ⟨hP, List.append_assoc ..⟩, ?_⟩
    exact (hf a₀ hP _ _).2 ⟨⟨⟨hE, rfl⟩, hQ⟩, rfl⟩

end Takes

/-! ## Numbers -/

theorem take_append (short : Fault) (taken rest : List UInt8) :
    take short taken.length (taken ++ rest) = .ok (taken, rest) := by
  induction taken with
  | nil => rfl
  | cons b taken ih => rw [List.length_cons, List.cons_append, take, ih]

/-- As many bytes as asked for are taken off as they are. -/
theorem takes_take (short : Fault) (n : Nat) (taken : List UInt8) :
    Takes (take short n) taken (taken.length = n) taken := by
  intro bytes rest
  constructor
  · intro h
    induction n generalizing bytes taken with
    | zero =>
      obtain ⟨rfl, rfl⟩ := Prod.mk.inj (Except.ok.inj h)
      exact ⟨rfl, rfl⟩
    | succ n ih =>
      cases bytes with
      | nil => cases h
      | cons b bytes =>
        rw [take] at h
        split at h
        · rename_i taken' rest' htake
          obtain ⟨rfl, rfl⟩ := Prod.mk.inj (Except.ok.inj h)
          obtain ⟨hlen, rfl⟩ := ih taken' bytes htake
          exact ⟨by rw [List.length_cons, hlen], rfl⟩
        · cases h
  · rintro ⟨rfl, rfl⟩
    exact take_append short taken rest

theorem length_littleEndian (width n : Nat) : (littleEndian width n).length = width := by
  induction width generalizing n with
  | zero => rfl
  | succ width ih => rw [littleEndian, List.length_cons, ih]

/-- Numbers are written as described. -/
theorem littleEndian_eq (width n : Nat) : littleEndian width n = Datum.numberBytes width n := by
  induction width generalizing n with
  | zero => rfl
  | succ width ih =>
    rw [littleEndian, ih, Datum.numberBytes, Datum.numberBytes, List.range_succ_eq_map,
      List.map_cons, List.map_map]
    congr 1
    · rw [pow_zero, Nat.div_one]
      exact UInt8.toNat.inj (by simp)
    · refine List.map_congr_left fun i _ => ?_
      rw [Function.comp_apply, Nat.div_div_eq_div_mul, ← pow_succ']

theorem ofLittleEndian_lt (bs : List UInt8) : ofLittleEndian bs < 256 ^ bs.length := by
  induction bs with
  | nil => simp [ofLittleEndian]
  | cons b bs ih =>
    have hb : b.toNat < 256 := b.toNat_lt
    rw [ofLittleEndian, List.length_cons, pow_succ']
    omega

theorem littleEndian_ofLittleEndian (bs : List UInt8) :
    littleEndian bs.length (ofLittleEndian bs) = bs := by
  induction bs with
  | nil => rfl
  | cons b bs ih =>
    have hb : b.toNat < 256 := b.toNat_lt
    have hmod : (b.toNat + 256 * ofLittleEndian bs) % 256 = b.toNat := by omega
    have hdiv : (b.toNat + 256 * ofLittleEndian bs) / 256 = ofLittleEndian bs := by omega
    rw [List.length_cons, ofLittleEndian, littleEndian, hmod, hdiv, ih, UInt8.ofNat_toNat]

theorem ofLittleEndian_littleEndian {width n : Nat} (h : n < 256 ^ width) :
    ofLittleEndian (littleEndian width n) = n := by
  induction width generalizing n with
  | zero =>
    rw [pow_zero] at h
    rw [littleEndian, ofLittleEndian]
    omega
  | succ width ih =>
    rw [pow_succ'] at h
    have hmod : (UInt8.ofNat (n % 256)).toNat = n % 256 := by simp
    rw [littleEndian, ofLittleEndian, hmod, ih (by omega)]
    omega

/-- A number is taken off if it is small enough for its width. -/
theorem takes_number (width n : Nat) :
    Takes (number width) n (n < 256 ^ width) (littleEndian width n) := by
  -- Bytes as many as the width and numbers small enough for it correspond.
  have hof : ∀ taken : List UInt8, taken.length = width →
      (n = ofLittleEndian taken ↔ (n < 256 ^ width ∧ taken = littleEndian width n) ∧ True) := by
    rintro taken rfl
    rw [and_true]
    constructor
    · rintro rfl
      exact ⟨ofLittleEndian_lt taken, (littleEndian_ofLittleEndian taken).symm⟩
    · rintro ⟨hlt, htaken⟩
      rw [htaken, ofLittleEndian_littleEndian hlt]
  refine (Takes.bind (littleEndian width n) (takes_take _ width) fun taken htaken =>
    .pure (hof taken htaken)).congr ?_ (List.append_nil _)
  rw [length_littleEndian, and_true]
  exact and_iff_left rfl

/-- A type whose values are numbers is decoded as a number. -/
theorem takes_ofNumber {width : Nat} (toNat : α → Nat) {ofNat : Nat → α}
    (hlt : ∀ a, toNat a < 256 ^ width) (hleft : ∀ a, ofNat (toNat a) = a)
    (hright : ∀ n < 256 ^ width, toNat (ofNat n) = n) (a : α) :
    Takes (do return ofNat (← number width)) a True (littleEndian width (toNat a)) := by
  have hof : ∀ n < 256 ^ width, (a = ofNat n ↔ (True ∧ n = toNat a) ∧ True) := by
    intro n hn
    rw [true_and, and_true]
    constructor
    · rintro rfl
      exact (hright n hn).symm
    · rintro rfl
      exact (hleft a).symm
  refine (Takes.bind (toNat a) (takes_number width) fun n hn => .pure (hof n hn)).congr ?_
    (List.append_nil _)
  simp only [hlt a, and_true]

instance : Described UInt8 where
  datum b := .number 1 b.toNat

instance : Lawful UInt8 where
  encode_eq b := by simp [encode, datum, Datum.bytes, Datum.numberBytes]
  takes_decode b := by
    have hencode : littleEndian 1 b.toNat = encode b := by simp [encode, littleEndian]
    exact (takes_ofNumber UInt8.toNat UInt8.toNat_lt (fun _ => UInt8.ofNat_toNat)
      (fun n hn => UInt8.toNat_ofNat_of_lt hn) b).congr Iff.rfl hencode

instance : Described UInt64 where
  datum n := .number 8 n.toNat

instance : Lawful UInt64 where
  encode_eq n := littleEndian_eq 8 n.toNat
  takes_decode := takes_ofNumber UInt64.toNat UInt64.toNat_lt (fun _ => UInt64.ofNat_toNat)
    fun _ hn => UInt64.toNat_ofNat_of_lt hn

instance : Described Int32 where
  datum n := .number 4 n.toUInt32.toNat

instance : Lawful Int32 where
  encode_eq n := littleEndian_eq 4 n.toUInt32.toNat
  takes_decode := by
    refine takes_ofNumber (fun n : Int32 => n.toUInt32.toNat) (fun n => n.toUInt32.toNat_lt)
      (fun _ => ?_) fun _ hn => ?_
    · rw [UInt32.ofNat_toNat, Int32.toInt32_toUInt32]
    · rw [UInt32.toUInt32_toInt32]
      exact UInt32.toNat_ofNat_of_lt hn

/-! ## Texts -/

theorem textBytes_eq (s : String) : Datum.textBytes s = Utf8.encode s := by
  rw [Datum.textBytes, Utf8.encode, String.toUTF8_eq_toByteArray, ← String.utf8Encode_toList,
    List.utf8Encode, List.toList_data_toByteArray]

/-- Bytes are read as a text iff they are its bytes. -/
theorem utf8Decode_eq_ok_iff {bytes : List UInt8} {s : String} :
    Utf8.decode bytes = .ok s ↔ bytes = Utf8.encode s := by
  rw [Utf8.decode, Utf8.encode, String.fromUTF8?]
  constructor
  · intro h
    split at h
    · rename_i text htext
      obtain rfl := Except.ok.inj h
      split at htext
      · obtain rfl := Option.some.inj htext
        rfl
      · cases htext
    · cases h
  · rintro rfl
    have hvalid : (ByteArray.mk s.toUTF8.data.toList.toArray).IsValidUTF8 := s.isValidUTF8
    rw [dif_pos hvalid]
    rfl

instance : Described String where
  datum := .text

theorem fits_string {s : String} : Fits s ↔ (Utf8.encode s).length < 2 ^ 64 := by
  simp only [Fits, datum, Datum.Fits, textBytes_eq]

instance : Lawful String where
  encode_eq s := by
    simp only [encode, datum, Datum.bytes, littleEndian_eq, textBytes_eq]
  takes_decode s := by
    have htext : ∀ taken : List UInt8, Takes
        (match Utf8.decode taken with
          | .ok text => pure text
          | .error fault => throw (.text fault) : Decoder String)
        s ((True ∧ taken = Utf8.encode s) ∧ True) [] := by
      intro taken
      rw [true_and, and_true, ← utf8Decode_eq_ok_iff]
      cases Utf8.decode taken with
      | ok text => exact .pure (by rw [Except.ok.injEq, eq_comm])
      | error fault => exact .throw (by simp)
    have hbytes : ∀ n : Nat, Takes (do
        let bytes ← take .shortText n
        match Utf8.decode bytes with
          | .ok text => return text
          | .error fault => throw (.text fault) : Decoder String)
        s ((True ∧ n = (Utf8.encode s).length) ∧ True) (Utf8.encode s) := by
      intro n
      refine (Takes.bind _ (takes_take _ n) fun taken _ => htext taken).congr ?_ (List.append_nil _)
      simp only [true_and, and_true, eq_comm]
    refine (Takes.bind _ (takes_number 8) fun n _ => hbytes n).congr ?_ rfl
    rw [fits_string, true_and, and_true]
    rfl

/-! ## Lists -/

section Items

variable {item : Decoder α} {P : α → Prop} {enc : α → List UInt8}

/-- As many items as asked for are taken off, one after the other. -/
theorem takes_repeated (hitem : ∀ a, Takes item a (P a) (enc a)) (n : Nat) (items : List α) :
    Takes (repeated item n) items (items.length = n ∧ ∀ a ∈ items, P a) (items.flatMap enc) := by
  intro bytes rest
  constructor
  · intro h
    induction n generalizing bytes items with
    | zero =>
      obtain ⟨rfl, rfl⟩ := Prod.mk.inj (Except.ok.inj h)
      simp
    | succ n ih =>
      obtain ⟨a, mid, ha, h⟩ := bind_eq_ok_iff.1 h
      obtain ⟨items', mid', hitems, h⟩ := bind_eq_ok_iff.1 h
      obtain ⟨rfl, rfl⟩ := Prod.mk.inj (Except.ok.inj h)
      obtain ⟨hP, rfl⟩ := (hitem a _ _).1 ha
      obtain ⟨⟨hlen, hall⟩, rfl⟩ := ih items' mid hitems
      refine ⟨⟨by rw [List.length_cons, hlen], List.forall_mem_cons.2 ⟨hP, hall⟩⟩, ?_⟩
      rw [List.flatMap_cons, List.append_assoc]
  · rintro ⟨⟨rfl, hall⟩, rfl⟩
    induction items with
    | nil => rfl
    | cons a items ih =>
      rw [List.forall_mem_cons] at hall
      rw [List.flatMap_cons, List.append_assoc]
      refine bind_eq_ok_iff.2 ⟨a, _, (hitem a _ _).2 ⟨hall.1, rfl⟩, ?_⟩
      exact bind_eq_ok_iff.2 ⟨items, rest, ih hall.2, rfl⟩

/-- A list is taken off if its length fits and its items are taken off. -/
theorem takes_decodeList (hitem : ∀ a, Takes item a (P a) (enc a)) (items : List α) :
    Takes (decodeList item) items (items.length < 2 ^ 64 ∧ ∀ a ∈ items, P a)
      (encodeList enc items) := by
  have hrepeated : ∀ n, Takes (repeated item n) items
      ((True ∧ n = items.length) ∧ ∀ a ∈ items, P a) (items.flatMap enc) := by
    intro n
    refine (takes_repeated hitem n items).congr ?_ rfl
    rw [true_and, eq_comm]
  refine (Takes.bind _ (takes_number 8) fun n _ => hrepeated n).congr ?_ rfl
  rw [true_and]
  rfl

/-! ## Missing values -/

/-- A missing value is taken off as a tag alone, and one that is there behind another
    tag. -/
theorem takes_decodeOption (hitem : ∀ a, Takes item a (P a) (enc a)) (o : Option α) :
    Takes (decodeOption item) o (∀ a ∈ o, P a) (encodeOption enc o) := by
  have hfits : ∀ tag : UInt8, Fits tag := fun _ => trivial
  -- A tag decides whether there is a value, so each value has one tag to come from.
  cases o with
  | none =>
    have htag : ∀ tag : UInt8, Takes (if tag = 0 then return none
        else if tag = 1 then return some (← item) else throw (.presence tag)) none
        ((True ∧ tag = 0) ∧ True) [] := by
      intro tag
      split
      · exact .pure (by simpa)
      · rename_i htag
        -- No other tag comes to a missing value.
        refine Yields.takes (Q := fun o => o ≠ none) ?_ (by simp) (by simpa)
        split
        · exact .bind fun a => .pure (by simp)
        · exact .throw
    exact (Takes.bind 0 takes_decode fun tag _ => htag tag).congr (by simp [hfits]) rfl
  | some a =>
    have htag : ∀ tag : UInt8, Takes (if tag = 0 then return none
        else if tag = 1 then return some (← item) else throw (.presence tag)) (some a)
        ((True ∧ tag = 1) ∧ P a) (enc a) := by
      intro tag
      split
      · subst tag
        exact Yields.takes (Q := fun o => o = none) (.pure rfl) (by simp) (by simp)
      · split
        · subst tag
          have hsome : ∀ b, some a = some b ↔ (True ∧ b = a) ∧ True := by simp [eq_comm]
          refine (Takes.bind a hitem fun b _ => .pure (hsome b)).congr ?_ (List.append_nil _)
          simp
        · exact .throw (by simp [*])
    exact (Takes.bind 1 takes_decode fun tag _ => htag tag).congr (by simp [hfits]) rfl

end Items

section Containers

variable [Described α]

instance : Described (List α) where
  datum items := .list (items.map datum)

theorem fits_list {items : List α} : Fits items ↔ items.length < 2 ^ 64 ∧ ∀ a ∈ items, Fits a := by
  simp only [Fits, datum, Datum.Fits, Datum.allFit_iff, List.length_map, List.forall_mem_map]

theorem fits_bytes {bytes : List UInt8} : Fits bytes ↔ bytes.length < 2 ^ 64 := by
  rw [fits_list]
  exact and_iff_left fun _ _ => trivial

instance [Wire α] [Lawful α] : Lawful (List α) where
  encode_eq items := by
    have hitems : (encode : α → List UInt8) = fun a => (datum a).bytes := funext encode_eq
    simp only [encode, encodeList, datum, Datum.bytes, Datum.bytesOfAll_eq_flatMap,
      littleEndian_eq, List.length_map, List.flatMap_map, hitems]
  takes_decode items := (takes_decodeList takes_decode items).congr fits_list.symm rfl

instance : Described (Option α) where
  datum
    | none => .absent
    | some a => .present (datum a)

theorem fits_option {o : Option α} : Fits o ↔ ∀ a ∈ o, Fits a := by
  cases o <;> simp [Fits, datum, Datum.Fits]

instance [Wire α] [Lawful α] : Lawful (Option α) where
  encode_eq o := by
    cases o with
    | none => rfl
    | some a => simp only [encode, encodeOption, datum, Datum.bytes, encode_eq]
  takes_decode o := (takes_decodeOption takes_decode o).congr fits_option.symm rfl

end Containers

/-! ## Records and forms -/

/-- The position of a form is taken off as a number, if it is one of a form. -/
theorem takes_decodeForm {count : Nat} (hcount : count ≤ 256 ^ 4) (position : Fin count) :
    Takes (decodeForm count) position True (encodeForm position) := by
  have hfound : ∀ n, Takes
      (if h : n < count then pure ⟨n, h⟩ else throw (.form n count) : Decoder (Fin count)) position
      ((True ∧ n = position) ∧ True) [] := by
    intro n
    split
    · exact .pure (by simp [Fin.ext_iff, eq_comm])
    · rename_i hcount
      refine .throw ?_
      rintro ⟨⟨-, rfl⟩, -⟩
      exact hcount position.isLt
  refine (Takes.bind _ (takes_number 4) fun n _ => hfound n).congr ?_ (List.append_nil _)
  simp only [Nat.lt_of_lt_of_le position.isLt hcount, and_true]

/-- The contents of a form are taken off behind its position. -/
theorem Takes.form {count : Nat} {f : Fin count → Decoder α} {position : α → Fin count}
    {P : Prop} {used : List UInt8} (hcount : count ≤ 256 ^ 4)
    (hyields : ∀ i, Yields (f i) fun a => position a = i) (a : α)
    (htakes : Takes (f (position a)) a P used) :
    Takes (decodeForm count >>= f) a P (encodeForm (position a) ++ used) := by
  have hform : ∀ i, Takes (f i) a ((True ∧ i = position a) ∧ P) used := by
    intro i
    by_cases hi : i = position a
    · subst hi
      exact htakes.congr (by simp) rfl
    · -- Behind the position of another form stands no value of this one.
      exact (hyields i).takes (Ne.symm hi) fun h => hi h.1.2
  refine (Takes.bind _ (takes_decodeForm hcount) fun i _ => hform i).congr ?_ rfl
  rw [true_and, true_and]

section Fields

open Datum

variable [Wire α] [Described α] [Lawful α]

theorem encode_eq_bytesOfAll (a : α) : encode a = bytesOfAll [datum a] := by
  rw [encode_eq, bytesOfAll, bytesOfAll, List.append_nil]

/-- One more field is written behind the others. -/
theorem append_eq_bytesOfAll {bytes : List UInt8} {fields : List Datum}
    (h : bytes = bytesOfAll fields) (a : α) :
    bytes ++ encode a = bytesOfAll (fields ++ [datum a]) := by
  rw [h, encode_eq_bytesOfAll]
  simp only [bytesOfAll_eq_flatMap, List.flatMap_append]

/-- One more field is taken off in front of the others. -/
theorem Takes.field {f : α → Decoder β} {b : β} {E : Prop} {fields : List Datum} (a₀ : α)
    (hf : ∀ a, Takes (f a) b ((E ∧ a = a₀) ∧ AllFit fields) (bytesOfAll fields)) :
    Takes (decode >>= f) b (E ∧ AllFit (datum a₀ :: fields)) (bytesOfAll (datum a₀ :: fields)) :=
  (Takes.bind a₀ takes_decode fun a _ => hf a).congr Iff.rfl (by rw [bytesOfAll, encode_eq])

theorem Takes.done {a b : β} {E : Prop} (h : b = a ↔ E) :
    Takes (Pure.pure a) b (E ∧ AllFit []) (bytesOfAll []) :=
  .pure (h.trans (and_iff_left trivial).symm)

end Fields

variable [Wire α] [Described α]

/-- The law of a record: its fields are written and taken off in order. -/
theorem Lawful.record {fields : α → List Datum} (hdatum : ∀ a : α, datum a = .record (fields a))
    (hencode : ∀ a : α, encode a = Datum.bytesOfAll (fields a))
    (hdecode : ∀ a : α, Takes decode a (True ∧ Datum.AllFit (fields a))
      (Datum.bytesOfAll (fields a))) : Lawful α where
  encode_eq a := by rw [hencode, hdatum, Datum.bytes]
  takes_decode a := by
    refine (hdecode a).congr ?_ (hencode a).symm
    rw [true_and, Fits, hdatum, Datum.Fits]

/-- The law of a type of several forms: the position of the form is written and
    taken off, and the contents of the form after it. -/
theorem Lawful.forms {count : Nat} {position : α → Fin count} {contents : α → List Datum}
    {f : Fin count → Decoder α} (hcount : count ≤ 256 ^ 4)
    (hdatum : ∀ a : α, datum a = .form (position a) (contents a))
    (hencode : ∀ a : α, encode a = encodeForm (position a) ++ Datum.bytesOfAll (contents a))
    (hdecode : decode = decodeForm count >>= f)
    (hyields : ∀ i, Yields (f i) fun a => position a = i)
    (htakes : ∀ a, Takes (f (position a)) a (True ∧ Datum.AllFit (contents a))
      (Datum.bytesOfAll (contents a))) : Lawful α where
  encode_eq a := by rw [hencode, hdatum, Datum.bytes, encodeForm, littleEndian_eq]
  takes_decode a := by
    rw [hdecode]
    refine (Takes.form hcount hyields a (htakes a)).congr ?_ (hencode a).symm
    rw [true_and, Fits, hdatum, Datum.Fits]

end Endorsement.Wire
