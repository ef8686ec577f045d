import Endorsement.Proofs.Identity.Register

/-!
# The register and what it reports

Whenever an organisation is set that was not known yet, or was another one, the
register reports it. What it reports is a journal: whoever reads it from the
start, and sets what was reported, gets the register.

* `Event.isMapping`: whether a PKI ID got an organisation, by the message of an
  event;
* `Register.changes`: what there is to report when organisations are set in order;
* `Register.mappings_handle`, `Register.mappings_run`: what actions report of
  organisations that were set;
* `Register.Leads`: reading a journal from one register to another;
* `Write`: what is done to a register;
* `Register.journal_rebuilds_register`: the journal of anything that is done.
-/

namespace Endorsement

open Gossip

/-- A PKI ID got an organisation. -/
def Event.isMapping (event : Event) : Bool :=
  event.message == "Added PKI ID mapping" || event.message == "Overriding PKI ID mapping"

namespace Identity.Register

/-! ## Organisations that are reported -/

/-- What there is to report when an organisation is set. -/
def change (r : Register) (p : PkiId) (org : String) : List Event :=
  match r.find? p with
  | none => [.mappingAdded p org]
  | some old => if old = org then [] else [.mappingOverridden p old org]

/-- What there is to report when organisations are set, one after the other. -/
def changes (r : Register) : List (PkiId × String) → List Event
  | [] => []
  | (p, org) :: rest => change r p org ++ changes (r.insert p org) rest

theorem changes_append (r : Register) (first rest : List (PkiId × String)) :
    changes r (first ++ rest) = changes r first ++ changes (r.insertAll first) rest := by
  induction first generalizing r with
  | nil => rfl
  | cons named first ih =>
    rw [List.cons_append, changes, changes, ih, List.append_assoc]
    rfl

/-- Nothing is there to report when all organisations are known. -/
theorem changes_of_known {r : Register} {named : List (PkiId × String)}
    (h : ∀ i ∈ named, r.find? i.1 = some i.2) : changes r named = [] ∧ r.insertAll named = r := by
  induction named with
  | nil => exact ⟨rfl, rfl⟩
  | cons i rest ih =>
    rw [List.forall_mem_cons] at h
    obtain ⟨hchanges, hinsert⟩ := ih h.2
    constructor
    · rw [changes, change, h.1, Table.insert_eq_self h.1, hchanges]
      simp
    · change (r.insert i.1 i.2).insertAll rest = r
      rw [Table.insert_eq_self h.1, hinsert]

/-- What an action reports. -/
def reported (action : Act Register Unit) (r : Register) : List Event :=
  (action r).events

/-- What an action reports of organisations that were set. -/
def mappings (action : Act Register Unit) (r : Register) : List Event :=
  (reported action r).filter Event.isMapping

theorem mappings_bind (x : Act Register Unit) (f : Unit → Act Register Unit) (r : Register) :
    mappings (x >>= f) r = mappings x r ++ mappings (f ()) (left x r) :=
  List.filter_append _ _

theorem mappings_upsert (p : PkiId) (org : String) (r : Register) :
    mappings (upsert p org) r = change r p org := by
  have hget : ∀ f : Register → Act Register Unit, (get >>= f) r = f r r := fun f => rfl
  rw [mappings, reported, upsert, hget, change]
  cases r.find? p with
  | none => rfl
  | some old =>
    by_cases hold : old = org
    · simp only [if_pos hold]
      rfl
    · simp only [if_neg hold]
      rfl

theorem mappings_apply (e : Envelope) (r : Register) :
    mappings (apply e) r = changes r e.named?.toList := by
  rw [apply, ← toOption_readEnvelope]
  cases readEnvelope e with
  | error failure => rfl
  | ok named => exact (mappings_upsert named.1 named.2 r).trans (List.append_nil _).symm

theorem mappings_applyAll (envelopes : List Envelope) (r : Register) :
    mappings (applyAll envelopes) r = changes r (envelopes.filterMap Envelope.named?) := by
  induction envelopes generalizing r with
  | nil => rfl
  | cons e rest ih =>
    rw [applyAll, mappings_bind, mappings_apply, ih, left_apply, ← changes_append]
    cases h : e.named? <;> simp [h]

/-- A message is reported as what it names. -/
theorem mappings_handle (m : Message) (r : Register) :
    mappings (handle m) r = changes r m.named := by
  rw [handle_eq, mappings_applyAll, Message.named]

theorem mappings_handleAll (messages : List Message) (r : Register) :
    mappings (handleAll messages) r = changes r (messages.flatMap Message.named) := by
  induction messages generalizing r with
  | nil => rfl
  | cons m rest ih =>
    rw [handleAll, mappings_bind, mappings_handle, ih, left_handle, ← changes_append,
      List.flatMap_cons]

theorem mappings_run (messages : List Message) (r : Register) :
    mappings (run messages) r = changes r (messages.flatMap Message.named) := by
  rw [← flatMap_named_filter, ← mappings_handleAll]
  -- The start and the end of a stream are reported besides.
  rw [run, mappings_bind, mappings_bind]
  exact List.append_nil _

theorem mappings_feed (feed : Feed) (r : Register) :
    mappings feed.apply r = changes r feed.named := by
  cases feed with
  | message m => exact mappings_handle m r
  | stream messages => exact mappings_run messages r

/-! ## Reading the journal -/

/-- The register once an event was read. -/
def replay (r : Register) : Event → Register
  | .mappingAdded p org => r.insert p org
  | .mappingOverridden p _ org => r.insert p org
  | _ => r

/-- The register once events were read in order, empty before them. -/
def replayed (log : List Event) : Register :=
  log.foldl replay .empty

/-- An event is true of the register it is read on: an organisation is added to a
    PKI ID that has none, and overridden where it is the old one, which is not the
    new one. -/
def Warranted (r : Register) : Event → Prop
  | .mappingAdded p _ => r.find? p = none
  | .mappingOverridden p old org => r.find? p = some old ∧ old ≠ org
  | _ => True

/-- Events read in order lead from one register to another, and each is true where
    it is read. -/
inductive Leads : Register → List Event → Register → Prop
  | done {r : Register} : Leads r [] r
  | read {r r' : Register} {event : Event} {rest : List Event} : Warranted r event →
      Leads (replay r event) rest r' → Leads r (event :: rest) r'

/-- Other events mean nothing to the register. -/
theorem replay_of_not_isMapping {event : Event} (h : event.isMapping = false) (r : Register) :
    replay r event = r ∧ Warranted r event := by
  cases event with
  | mappingAdded p org => cases h
  | mappingOverridden p old org => cases h
  | _ => exact ⟨rfl, trivial⟩

theorem leads_of_filter {log : List Event} {r r' : Register}
    (h : Leads r (log.filter Event.isMapping) r') : Leads r log r' := by
  induction log generalizing r with
  | nil => exact h
  | cons event rest ih =>
    cases hmapping : event.isMapping with
    | true =>
      rw [List.filter_cons_of_pos hmapping] at h
      cases h with
      | read hwarranted h => exact .read hwarranted (ih h)
    | false =>
      rw [List.filter_cons_of_neg (Bool.eq_false_iff.1 hmapping)] at h
      obtain ⟨hreplay, hwarranted⟩ := replay_of_not_isMapping hmapping r
      exact .read hwarranted (hreplay.symm ▸ ih h)

theorem leads_change_append {r r' : Register} {p : PkiId} {org : String} {rest : List Event}
    (h : Leads (r.insert p org) rest r') : Leads r (change r p org ++ rest) r' := by
  rw [change]
  cases hfind : r.find? p with
  | none => exact .read hfind h
  | some old =>
    by_cases hold : old = org
    · rw [Table.insert_eq_self (hold ▸ hfind)] at h
      simp only [if_pos hold]
      exact h
    · simp only [if_neg hold]
      exact .read ⟨hfind, hold⟩ h

/-- What is reported when organisations are set leads to the register that has
    them. -/
theorem leads_changes (r : Register) (named : List (PkiId × String)) :
    Leads r (changes r named) (r.insertAll named) := by
  induction named generalizing r with
  | nil => exact .done
  | cons i rest ih => exact leads_change_append (ih (r.insert i.1 i.2))

theorem Leads.eq {r r' : Register} {log : List Event} (h : Leads r log r') :
    log.foldl replay r = r' := by
  induction h with
  | done => rfl
  | read _ _ ih => exact ih

theorem Leads.warranted {before rest : List Event} {event : Event} {r r' : Register}
    (h : Leads r (before ++ event :: rest) r') : Warranted (before.foldl replay r) event := by
  induction before generalizing r with
  | nil =>
    cases h with
    | read hwarranted _ => exact hwarranted
  | cons first before ih =>
    cases h with
    | read _ h => exact ih h

end Identity.Register

/-! ## Writing to the register -/

namespace Identity

/-- What is done to a register. -/
inductive Write where
  /-- The organisation of a PKI ID is set. -/
  | upsert (p : PkiId) (org : String)
  /-- A message or a stream of messages is applied. -/
  | feed (f : Feed)

namespace Write

/-- How something is done. -/
def apply : Write → Act Register Unit
  | .upsert p org => Register.upsert p org
  | .feed f => f.apply

/-- The PKI IDs that something is to set, each with its organisation, in order. -/
def named : Write → List (PkiId × String)
  | .upsert p org => [(p, org)]
  | .feed f => f.named

/-- Does some things, one after the other. -/
def applyAll : List Write → Act Register Unit
  | [] => return
  | w :: rest => do
    w.apply
    applyAll rest

end Write

namespace Register

theorem left_write (w : Write) (r : Register) : left w.apply r = r.insertAll w.named := by
  cases w with
  | upsert p org => exact left_upsert p org r
  | feed f => exact left_feed f r

theorem mappings_write (w : Write) (r : Register) : mappings w.apply r = changes r w.named := by
  cases w with
  | upsert p org => exact (mappings_upsert p org r).trans (List.append_nil _).symm
  | feed f => exact mappings_feed f r

theorem left_writes (writes : List Write) (r : Register) :
    left (Write.applyAll writes) r = r.insertAll (writes.flatMap Write.named) := by
  induction writes generalizing r with
  | nil => rfl
  | cons w rest ih =>
    rw [Write.applyAll, left_bind, ih, left_write, ← Table.insertAll_append, List.flatMap_cons]

theorem mappings_writes (writes : List Write) (r : Register) :
    mappings (Write.applyAll writes) r = changes r (writes.flatMap Write.named) := by
  induction writes generalizing r with
  | nil => rfl
  | cons w rest ih =>
    rw [Write.applyAll, mappings_bind, mappings_write, ih, left_write, ← changes_append,
      List.flatMap_cons]

/-- Whatever is done to a register that was empty, what it reports leads to it. -/
theorem leads_writes (writes : List Write) (r : Register) :
    Leads r (reported (Write.applyAll writes) r) (left (Write.applyAll writes) r) := by
  refine leads_of_filter ?_
  change Leads r (mappings (Write.applyAll writes) r) _
  rw [mappings_writes, left_writes]
  exact leads_changes r _

/-- Whatever is done to a register, one thing after the other: whoever reads what it
    reported, from an empty register on, gets the register. An organisation is
    reported as added where there was none at that point, and as overriding one that
    was there at that point and is another one. What names only what is known
    already changes nothing, and is not reported. -/
theorem journal_rebuilds_register (writes : List Write) :
    let log := reported (Write.applyAll writes) .empty
    let r := left (Write.applyAll writes) .empty
    replayed log = r ∧
      (∀ before event rest, log = before ++ event :: rest → Warranted (replayed before) event) ∧
      ∀ w : Write, (∀ i ∈ w.named, r.find? i.1 = some i.2) →
        left w.apply r = r ∧ mappings w.apply r = [] := by
  intro log r
  have hleads : Leads .empty log r := leads_writes writes .empty
  refine ⟨hleads.eq, fun before event rest hlog => ?_, fun w hknown => ?_⟩
  · rw [hlog] at hleads
    exact hleads.warranted
  · obtain ⟨hchanges, hinsert⟩ := changes_of_known hknown
    exact ⟨(left_write w r).trans hinsert, (mappings_write w r).trans hchanges⟩

/-- An organisation that is overridden and comes back is reported each time, and
    not once more when it is named again. -/
theorem journal_of_override_and_back :
    let writes := [Write.upsert ⟨[1]⟩ "A", .feed (.message (.identityUpdate
      [.ofMsp ⟨[1]⟩ "B", .ofMsp ⟨[2]⟩ "", .ofMsp ⟨[1]⟩ "B", .ofMsp ⟨[1]⟩ "A"]))]
    let log := reported (Write.applyAll writes) .empty
    log = [.mappingAdded ⟨[1]⟩ "A", .mappingOverridden ⟨[1]⟩ "A" "B", .mappingAdded ⟨[2]⟩ "",
        .mappingOverridden ⟨[1]⟩ "B" "A"] ∧
      (replayed (log.take 3)).find? ⟨[1]⟩ = some "B" ∧
      mappings (Write.upsert ⟨[1]⟩ "A").apply (left (Write.applyAll writes) .empty) = [] := by
  intro writes log
  have hlog : log = [.mappingAdded ⟨[1]⟩ "A", .mappingOverridden ⟨[1]⟩ "A" "B",
      .mappingAdded ⟨[2]⟩ "", .mappingOverridden ⟨[1]⟩ "B" "A"] := by decide +kernel
  have hfind : (left (Write.applyAll writes) .empty).find? ⟨[1]⟩ = some "A" := by decide +kernel
  obtain ⟨-, hwarranted, hquiet⟩ := journal_rebuilds_register writes
  refine ⟨hlog, ?_, (hquiet (.upsert ⟨[1]⟩ "A") ?_).2⟩
  · rw [hlog]
    obtain ⟨hold, -⟩ := hwarranted [_, _, _] (.mappingOverridden ⟨[1]⟩ "B" "A") [] hlog
    exact hold
  · intro i hi
    obtain rfl := List.mem_singleton.1 hi
    exact hfind

end Register

end Identity

end Endorsement
