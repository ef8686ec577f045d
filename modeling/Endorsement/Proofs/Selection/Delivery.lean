import Endorsement.Proofs.Identity.Journal
import Endorsement.Proofs.Identity.Listener
import Endorsement.Proofs.Selection.Run

/-!
# What becomes of messages

Messages are sent to queues, which listeners read when they are driven; but a
listener may be replaced, or its context be shut down, before that. Which
messages reach the register is told by the changes made to a context alone:
those that the listener at work has accepted since it was last driven.

* `changes`: the changes that were made, newest first;
* `Past.started`, `Past.working?`, `Past.closed`, `Past.waiting`: how many listeners
  were started, which one is at work, and of each whether its queue is closed and
  which messages wait in it;
* `Past.journal`: what was done to the register, oldest first;
* `Accounted`, `accounted_after`: the listeners of a context are as its changes
  tell, and so is the register;
* `SameBut`, `sameBut_of_lost`: a message makes no difference if its listener is not
  at work by the next drive;
* `System.messages_applied_once`: all this of every context in use, and that no
  PKI ID is ever lost.
-/

namespace Endorsement.Selection

open Identity Gossip

/-! ## What changes tell -/

/-- The change that was made, if it was one. -/
def Op.edit? : Op → Option Edit
  | edit e => some e
  | request _ => none

/-- The changes among what happened, newest first. -/
def changes (ops : List Op) : List Edit :=
  (ops.filterMap Op.edit?).reverse

theorem changes_append (first rest : List Op) :
    changes (first ++ rest) = changes rest ++ changes first := by
  rw [changes, List.filterMap_append, List.reverse_append]
  rfl

theorem changes_cons (e : Edit) (rest : List Op) :
    changes (.edit e :: rest) = changes rest ++ [e] :=
  changes_append [.edit e] rest

theorem mem_changes {e : Edit} {ops : List Op} : e ∈ changes ops ↔ Op.edit e ∈ ops := by
  rw [changes, List.mem_reverse, List.mem_filterMap]
  constructor
  · rintro ⟨op, hmem, hop⟩
    cases op with
    | edit e' => exact Option.some.inj hop ▸ hmem
    | request r => cases hop
  · exact fun hmem => ⟨_, hmem, rfl⟩

namespace Past

/-- How many listeners were started. -/
def started : List Edit → Nat
  | [] => 0
  | .listen :: past => started past + 1
  | _ :: past => started past

/-- The listener at work: the last one started, unless it was stopped since. -/
def working? : List Edit → Option Nat
  | [] => none
  | .listen :: past => some (started past)
  | .shutDown :: _ => none
  | _ :: past => working? past

/-- Whether the queue of a listener was closed. -/
def closed (i : Nat) : List Edit → Bool
  | [] => false
  | .closeQueue j :: past => (j == i && decide (i < started past)) || closed i past
  | _ :: past => closed i past

/-- The messages that the queue of a listener took since the last drive, oldest
    first. It takes messages once there is one, and until it is closed. -/
def waiting (i : Nat) : List Edit → List Message
  | [] => []
  | .send j message :: past =>
    if j = i ∧ i < started past ∧ closed i past = false then waiting i past ++ [message]
    else waiting i past
  | .drive :: _ => []
  | _ :: past => waiting i past

/-- The messages that wait for the listener at work, if there is one. -/
def due (past : List Edit) : List Message :=
  match working? past with
  | some i => waiting i past
  | none => []

/-- What is done to the register with a message that a listener reads. -/
def reading (message : Message) : Write := .feed (.message message)

/-- What was done to the register, oldest first: what was set in it or fed to
    it, each at its time, and at each drive the messages that waited for the
    listener at work. -/
def journal : List Edit → List Write
  | [] => []
  | .upsert pkiId mspId :: past => journal past ++ [.upsert pkiId mspId]
  | .feed f :: past => journal past ++ [.feed f]
  | .drive :: past => journal past ++ (due past).map reading
  | _ :: past => journal past

variable {past : List Edit} {i : Nat}

theorem lt_started_of_working (h : working? past = some i) : i < started past := by
  induction past with
  | nil => cases h
  | cons e past ih =>
    cases e with
    | listen =>
      obtain rfl := Option.some.inj h
      exact Nat.lt_succ_self _
    | shutDown => cases h
    | _ => exact ih h

theorem lt_started_of_closed (h : closed i past = true) : i < started past := by
  induction past with
  | nil => cases h
  | cons e past ih =>
    cases e with
    | listen => exact Nat.lt_succ_of_lt (ih h)
    | closeQueue j =>
      rw [closed, Bool.or_eq_true, Bool.and_eq_true, decide_eq_true_eq] at h
      exact h.elim And.right ih
    | _ => exact ih h

theorem lt_started_of_waiting (h : waiting i past ≠ []) : i < started past := by
  induction past with
  | nil => exact absurd rfl h
  | cons e past ih =>
    cases e with
    | listen => exact Nat.lt_succ_of_lt (ih h)
    | send j message =>
      rw [waiting] at h
      split at h
      · rename_i hsend
        exact hsend.2.1
      · exact ih h
    | drive => exact absurd rfl h
    | _ => exact ih h

/-- The next queue is empty and open. -/
theorem waiting_started (past : List Edit) : waiting (started past) past = [] := by
  by_contra hne
  exact Nat.lt_irrefl _ (lt_started_of_waiting hne)

theorem closed_started (past : List Edit) : closed (started past) past = false :=
  Bool.eq_false_iff.2 fun hclosed => Nat.lt_irrefl _ (lt_started_of_closed hclosed)

/-- A listener that is not at work will never be again. -/
theorem working?_cons_ne (hi : i < started past) (h : working? past ≠ some i) (e : Edit) :
    i < started (e :: past) ∧ working? (e :: past) ≠ some i := by
  cases e with
  | listen => exact ⟨Nat.lt_succ_of_lt hi, fun heq => Nat.ne_of_gt hi (Option.some.inj heq)⟩
  | shutDown => exact ⟨hi, fun heq => by cases heq⟩
  | _ => exact ⟨hi, h⟩

theorem started_le_append (past rest : List Edit) : started past ≤ started (rest ++ past) := by
  induction rest with
  | nil => exact Nat.le_refl _
  | cons e rest ih =>
    cases e with
    | listen => exact Nat.le_succ_of_le ih
    | _ => exact ih

/-- Nothing is taken back. -/
theorem exists_journal_append (past rest : List Edit) :
    ∃ more, journal (rest ++ past) = journal past ++ more := by
  induction rest with
  | nil => exact ⟨[], (List.append_nil _).symm⟩
  | cons e rest ih =>
    obtain ⟨more, hmore⟩ := ih
    cases e with
    | upsert _ _ | feed _ | drive =>
      rw [List.cons_append, journal, hmore, List.append_assoc]
      exact ⟨_, rfl⟩
    | _ => exact ⟨more, hmore⟩

end Past

open Past

/-! ## Listeners -/

/-- A queue that is as it should be: it holds the messages that wait if its
    listener is at work; an ended one is closed and nothing waits in it; any other
    was stopped, and is perhaps gone. -/
inductive Fits (working : Option Nat) (i : Nat) (waiting : List Message) (closed : Bool) :
    Queue → Prop
  | atWork {stage : Stage} (h : working = some i) (hstage : stage = .started ∨ stage = .listening) :
      Fits working i waiting closed ⟨waiting, closed, stage⟩
  | ended (h : working = some i) (hwaiting : waiting = []) (hclosed : closed = true) :
      Fits working i waiting closed ⟨[], true, .gone⟩
  | replaced {pending : List Message} {stage : Stage} (h : working ≠ some i)
      (hstage : stage = .stopped ∨ stage = .gone) :
      Fits working i waiting closed ⟨pending, closed, stage⟩

/-- The listeners are as the changes tell. -/
structure Accounted (past : List Edit) (l : Listeners) : Prop where
  length_eq : l.queues.length = started past
  current_eq : l.current = working? past
  fits : ∀ i q, l.queues[i]? = some q → Fits (working? past) i (waiting i past) (closed i past) q

namespace Edit

/-- The listeners afterwards. -/
def listeners : Edit → Listeners → Listeners
  | listen, l => l.start
  | send i message, l => l.send i message
  | closeQueue i, l => l.close i
  | drive, l => { l with queues := l.queues.map Queue.driven }
  | shutDown, l => l.stop
  | _, l => l

/-- The register afterwards. -/
def register : Edit → Listeners → Register → Register
  | upsert pkiId mspId, _, r => Register.left (Register.upsert pkiId mspId) r
  | feed f, _, r => Register.left f.apply r
  | drive, l, r => Register.left (Register.handleAll (l.queues.flatMap Queue.read)) r
  | _, _, r => r

theorem left_drive (context : Context) :
    drive.left context = { context with
      stores.register := drive.register context.listeners context.stores.register
      listeners := drive.listeners context.listeners } := by
  simp only [left, act, Context.drive, Context.onRegister, Runs.run_bind, Runs.run_get, run_part,
    Runs.run_modify, Listeners.run_drive]
  rfl

theorem listeners_left (e : Edit) (context : Context) :
    (e.left context).listeners = e.listeners context.listeners := by
  cases e with
  | drive => rw [left_drive]
  | _ => rfl

theorem register_left (e : Edit) (context : Context) :
    (e.left context).stores.register = e.register context.listeners context.stores.register := by
  cases e with
  | drive => rw [left_drive]
  | _ => rfl

end Edit

section Fitting

variable {working : Option Nat} {i : Nat} {pending : List Message} {closed : Bool} {q : Queue}

/-- Once a listener is stopped, or another is at work, it is as it should be
    whatever waits for it. -/
theorem Fits.stop {working' : Option Nat} {pending' : List Message}
    (h : Fits working i pending closed q) (hworking : working' ≠ some i) :
    Fits working' i pending' closed (if working = some i then q.stop else q) := by
  cases h with
  | atWork h hstage =>
    rw [if_pos h]
    rcases hstage with rfl | rfl <;> exact .replaced hworking (.inl rfl)
  | ended h _ hclosed =>
    rw [if_pos h, hclosed]
    exact .replaced hworking (.inr rfl)
  | replaced h hstage =>
    rw [if_neg h]
    exact .replaced hworking hstage

theorem Fits.driven (h : Fits working i pending closed q) :
    Fits working i [] closed q.driven := by
  cases h with
  | atWork h hstage =>
    cases closed with
    | true => rcases hstage with rfl | rfl <;> exact .ended h rfl rfl
    | false => rcases hstage with rfl | rfl <;> exact .atWork h (.inr rfl)
  | ended h _ hclosed => exact .ended h rfl hclosed
  | replaced h hstage => rcases hstage with rfl | rfl <;> exact .replaced h (.inr rfl)

theorem Fits.push (h : Fits working i pending closed q) (message : Message) :
    Fits working i (if closed = false then pending ++ [message] else pending) closed
      (q.push message) := by
  cases h with
  | atWork h hstage =>
    cases closed with
    | true => rcases hstage with rfl | rfl <;> exact .atWork h (by simp)
    | false => rcases hstage with rfl | rfl <;> exact .atWork h (by simp)
  | ended h hwaiting hclosed =>
    subst hclosed
    exact .ended h hwaiting rfl
  | replaced h hstage =>
    rw [Queue.push_eq]
    exact .replaced h hstage

theorem Fits.close (h : Fits working i pending closed q) :
    Fits working i pending true { q with closed := true } := by
  cases h with
  | atWork h hstage => exact .atWork h hstage
  | ended h hwaiting _ => exact .ended h hwaiting rfl
  | replaced h hstage => exact .replaced h hstage

theorem Fits.read_of_working (h : Fits (some i) i pending closed q) : q.read = pending := by
  cases h with
  | atWork _ hstage => rcases hstage with rfl | rfl <;> rfl
  | ended _ hwaiting _ => exact hwaiting.symm
  | replaced h _ => exact absurd rfl h

theorem Fits.read_of_ne (h : Fits working i pending closed q) (hne : working ≠ some i) :
    q.read = [] := by
  cases h with
  | atWork h _ | ended h _ _ => exact absurd h hne
  | replaced _ hstage => rcases hstage with rfl | rfl <;> rfl

theorem Fits.accepts_of_working (h : Fits (some i) i pending closed q) : q.accepts = !closed := by
  cases h with
  | atWork _ hstage => rcases hstage with rfl | rfl <;> exact Bool.and_true _
  | ended _ _ hclosed =>
    rw [hclosed]
    rfl
  | replaced h _ => exact absurd rfl h

end Fitting

section Accounting

variable {past : List Edit} {l : Listeners} {i : Nat} {q : Queue}

theorem Accounted.stop (h : Accounted past l) {working : Option Nat} (hworking : working ≠ some i)
    (hq : l.stop.queues[i]? = some q) :
    Fits working i (waiting i past) (closed i past) q := by
  rw [l.getElem?_stop] at hq
  obtain ⟨q, hq', rfl⟩ := Option.map_eq_some_iff.1 hq
  rw [h.current_eq]
  exact (h.fits i q hq').stop hworking

/-- Something that concerns one queue only leaves all as they should be if it
    leaves that one so. -/
theorem Accounted.modify {past' : List Edit} {f : Queue → Queue} (h : Accounted past l)
    (hstarted : started past' = started past) (hworking : working? past' = working? past)
    (hother : ∀ j, j ≠ i → waiting j past' = waiting j past ∧ closed j past' = closed j past)
    (hf : ∀ q, i < started past → Fits (working? past) i (waiting i past) (closed i past) q →
      Fits (working? past) i (waiting i past') (closed i past') (f q)) :
    Accounted past' { l with queues := l.queues.modify i f } := by
  refine ⟨?_, h.current_eq.trans hworking.symm, fun j q hq => ?_⟩
  · rw [List.length_modify, h.length_eq, hstarted]
  · rw [List.getElem?_modify] at hq
    obtain ⟨q, hq', rfl⟩ := Option.map_eq_some_iff.1 hq
    have hfits := h.fits j q hq'
    rw [hworking]
    by_cases hij : i = j
    · subst hij
      rw [if_pos rfl]
      exact hf q (h.length_eq ▸ (List.getElem?_eq_some_iff.1 hq').1) hfits
    · obtain ⟨hwaiting, hclosed⟩ := hother j (Ne.symm hij)
      rw [if_neg hij, hwaiting, hclosed]
      exact hfits

/-- Any change leaves the listeners as the changes tell. -/
theorem Accounted.listeners (h : Accounted past l) (e : Edit) :
    Accounted (e :: past) (e.listeners l) := by
  cases e with
  | listen =>
    refine ⟨?_, congrArg some h.length_eq, fun i q hq => ?_⟩
    · change (l.stop.queues ++ [_]).length = _
      rw [List.length_append, l.length_stop, h.length_eq]
      rfl
    · change (l.stop.queues ++ [({} : Queue)])[i]? = some q at hq
      rw [List.getElem?_append, l.length_stop, h.length_eq] at hq
      split at hq
      · -- An older queue: its listener is not at work any more.
        rename_i hlt
        exact h.stop (fun heq => Nat.ne_of_gt hlt (Option.some.inj heq)) hq
      · -- The new queue.
        rename_i hle
        obtain ⟨hi, rfl⟩ := List.getElem?_eq_some_iff.1 hq
        obtain rfl : i = started past := by
          rw [List.length_singleton] at hi
          omega
        change Fits _ _ (waiting (started past) past) (closed (started past) past) _
        rw [waiting_started, closed_started, List.getElem_singleton]
        exact .atWork rfl (.inl rfl)
  | shutDown =>
    refine ⟨l.length_stop.trans h.length_eq, ?_, fun i q hq => h.stop (by simp [working?]) hq⟩
    change l.stop.current = none
    rw [Listeners.stop]
    cases hcurrent : l.current with
    | none => exact hcurrent
    | some i => rfl
  | send i message =>
    refine h.modify rfl rfl (fun j hj => ⟨if_neg fun h => hj h.1.symm, rfl⟩) fun q hi hfits => ?_
    change Fits _ _ (waiting i (.send i message :: past)) (closed i past) _
    rw [waiting]
    simpa [hi] using hfits.push message
  | closeQueue i =>
    refine h.modify rfl rfl (fun j hj => ⟨rfl, ?_⟩) fun q hi hfits => ?_
    · rw [closed, beq_eq_false_iff_ne.2 hj.symm, Bool.false_and, Bool.false_or]
    · rw [closed, beq_self_eq_true, decide_eq_true hi]
      exact hfits.close
  | drive =>
    refine ⟨(List.length_map _).trans h.length_eq, h.current_eq, fun i q hq => ?_⟩
    change (l.queues.map Queue.driven)[i]? = some q at hq
    rw [List.getElem?_map] at hq
    obtain ⟨q, hq', rfl⟩ := Option.map_eq_some_iff.1 hq
    exact (h.fits i q hq').driven
  | _ => exact ⟨h.length_eq, h.current_eq, h.fits⟩

/-- There is a queue for the listener at work. -/
theorem Accounted.exists_queue (h : Accounted past l) (hi : working? past = some i) :
    ∃ q, l.queues[i]? = some q ∧ Fits (some i) i (waiting i past) (closed i past) q := by
  have hlt : i < l.queues.length := h.length_eq ▸ lt_started_of_working hi
  exact ⟨_, List.getElem?_eq_getElem hlt, hi ▸ h.fits i _ (List.getElem?_eq_getElem hlt)⟩

/-- Items of which one alone has parts have the parts of that one. -/
theorem flatMap_eq_of_unique {α β : Type} {f : α → List β} {items : List α} {i : Nat} {a : α}
    (hi : items[i]? = some a) (h : ∀ j b, items[j]? = some b → j ≠ i → f b = []) :
    items.flatMap f = f a := by
  induction items generalizing i with
  | nil => simp at hi
  | cons b rest ih =>
    rw [List.flatMap_cons]
    cases i with
    | zero =>
      obtain rfl : b = a := by simpa using hi
      have hrest : rest.flatMap f = [] := by
        rw [List.flatMap_eq_nil_iff]
        intro c hc
        obtain ⟨j, hj⟩ := List.getElem?_of_mem hc
        exact h (j + 1) c (by simpa using hj) (Nat.succ_ne_zero j)
      rw [hrest, List.append_nil]
    | succ i =>
      rw [h 0 b rfl (Nat.succ_ne_zero i).symm, List.nil_append]
      refine ih (by simpa using hi) fun j c hc hj => h (j + 1) c (by simpa using hc) ?_
      exact fun heq => hj (Nat.succ.inj heq)

/-- What is read at a drive are the messages that wait for the listener at work. -/
theorem Accounted.flatMap_read (h : Accounted past l) : l.queues.flatMap Queue.read = due past := by
  cases hworking : working? past with
  | none =>
    rw [due, hworking, List.flatMap_eq_nil_iff]
    intro q hq
    obtain ⟨i, hi⟩ := List.getElem?_of_mem hq
    exact (h.fits i q hi).read_of_ne (by simp [hworking])
  | some i =>
    obtain ⟨q, hi, hfits⟩ := h.exists_queue hworking
    rw [due, hworking, flatMap_eq_of_unique hi fun j p hp hne =>
      (h.fits j p hp).read_of_ne fun heq => hne (Option.some.inj (hworking ▸ heq)).symm]
    exact hfits.read_of_working

end Accounting

/-! ## The register -/

theorem flatMap_named_reading (messages : List Message) :
    (messages.map reading).flatMap Write.named = messages.flatMap Message.named := by
  rw [List.flatMap_map]
  rfl

/-- The register that a journal leads to. -/
def recorded (writes : List Write) : Register :=
  Register.left (Write.applyAll writes) .empty

theorem recorded_append (first rest : List Write) :
    recorded (first ++ rest) = (recorded first).insertAll (rest.flatMap Write.named) := by
  rw [recorded, recorded, Register.left_writes, Register.left_writes, List.flatMap_append,
    Table.insertAll_append]

/-- Any change leaves the register as the journal tells. -/
theorem Accounted.register {past : List Edit} {l : Listeners} (h : Accounted past l) (e : Edit) :
    e.register l (recorded (journal past)) = recorded (journal (e :: past)) := by
  cases e with
  | upsert pkiId mspId =>
    rw [journal, recorded_append]
    exact Register.left_upsert pkiId mspId _
  | feed f =>
    rw [journal, recorded_append, List.flatMap_singleton]
    exact Register.left_feed f _
  | drive =>
    rw [journal, recorded_append, flatMap_named_reading, Edit.register, h.flatMap_read,
      Register.left_handleAll]
  | _ => rfl

/-! ## Messages that are lost -/

/-- Two pasts that differ only in what waits for one listener. -/
structure SameBut (i : Nat) (past past' : List Edit) : Prop where
  started_eq : started past = started past'
  working_eq : working? past = working? past'
  closed_eq : ∀ j, closed j past = closed j past'
  waiting_eq : ∀ j, j ≠ i → waiting j past = waiting j past'
  journal_eq : journal past = journal past'

namespace SameBut

variable {past past' : List Edit} {i : Nat}

theorem send (past : List Edit) (i : Nat) (message : Message) :
    SameBut i (.send i message :: past) past :=
  ⟨rfl, rfl, fun _ => rfl, fun _ hj => if_neg fun h => hj h.1.symm, rfl⟩

/-- Pasts stay the same unless the messages are read. -/
theorem cons (h : SameBut i past past') (e : Edit)
    (hread : e = .drive → working? past ≠ some i) : SameBut i (e :: past) (e :: past') := by
  cases e with
  | listen =>
    exact ⟨congrArg Nat.succ h.started_eq, congrArg some h.started_eq, h.closed_eq, h.waiting_eq,
      h.journal_eq⟩
  | shutDown => exact ⟨h.started_eq, rfl, h.closed_eq, h.waiting_eq, h.journal_eq⟩
  | closeQueue j =>
    refine ⟨h.started_eq, h.working_eq, fun k => ?_, h.waiting_eq, h.journal_eq⟩
    rw [closed, closed, h.started_eq, h.closed_eq]
  | send j message =>
    refine ⟨h.started_eq, h.working_eq, h.closed_eq, fun k hk => ?_, h.journal_eq⟩
    rw [waiting, waiting, h.started_eq, h.closed_eq, h.waiting_eq k hk]
  | drive =>
    refine ⟨h.started_eq, h.working_eq, h.closed_eq, fun _ _ => rfl, ?_⟩
    -- What is read waits for another listener.
    have hdue : due past = due past' := by
      rw [due, due, ← h.working_eq]
      cases hworking : working? past with
      | none => rfl
      | some j => exact h.waiting_eq j fun hj => hread rfl (hj ▸ hworking)
    rw [journal, journal, h.journal_eq, hdue]
  | upsert pkiId mspId =>
    refine ⟨h.started_eq, h.working_eq, h.closed_eq, h.waiting_eq, ?_⟩
    rw [journal, journal, h.journal_eq]
  | feed f =>
    refine ⟨h.started_eq, h.working_eq, h.closed_eq, h.waiting_eq, ?_⟩
    rw [journal, journal, h.journal_eq]
  | _ => exact ⟨h.started_eq, h.working_eq, h.closed_eq, h.waiting_eq, h.journal_eq⟩

/-- Pasts stay the same until the next drive. -/
theorem append (h : SameBut i past past') {between : List Edit} (hdrive : .drive ∉ between) :
    SameBut i (between ++ past) (between ++ past') := by
  induction between with
  | nil => exact h
  | cons e between ih =>
    rw [List.mem_cons, not_or] at hdrive
    exact (ih hdrive.2).cons e fun he => absurd he.symm hdrive.1

/-- Pasts stay the same for ever once the listener is not at work. -/
theorem append_of_ne (h : SameBut i past past') (hi : i < started past)
    (hworking : working? past ≠ some i) (rest : List Edit) :
    SameBut i (rest ++ past) (rest ++ past') := by
  -- Later listeners have greater numbers, so that this one is never at work again.
  have hall : SameBut i (rest ++ past) (rest ++ past') ∧ i < started (rest ++ past) ∧
      working? (rest ++ past) ≠ some i := by
    induction rest with
    | nil => exact ⟨h, hi, hworking⟩
    | cons e rest ih => exact ⟨ih.1.cons e fun _ => ih.2.2, working?_cons_ne ih.2.1 ih.2.2 e⟩
  exact hall.1

end SameBut

/-- A message makes no difference if its listener is not at work by the next
    drive. -/
theorem sameBut_of_lost {past between : List Edit} {i : Nat} (hi : i < started past)
    (hdrive : .drive ∉ between) (hworking : working? (between ++ past) ≠ some i)
    (message : Message) (rest : List Edit) :
    SameBut i (rest ++ (between ++ .send i message :: past)) (rest ++ (between ++ past)) := by
  have hsame := (SameBut.send past i message).append hdrive
  refine hsame.append_of_ne ?_ (hsame.working_eq ▸ hworking) rest
  exact hsame.started_eq ▸ Nat.lt_of_lt_of_le hi (started_le_append past between)

/-! ## Contexts in use -/

namespace System

variable {config : Config}

/-- No request changes the listeners. -/
theorem listeners_run (x : System) (r : Request) :
    (x.run config r).2.1.listeners = x.context.listeners := by
  cases r with
  | endorsers channel chaincodes => rw [run_endorsers]
  | _ =>
    simp only [run, Request.act, Context.eventSource, Context.membership, Context.peersOfChannel,
      Context.allPeers, Runs.run_bind, run_part, Runs.run_pure]
    rfl

/-- No request changes the register. -/
theorem register_run (x : System) (r : Request) :
    (x.run config r).2.1.stores.register = x.context.stores.register := by
  have hstable : Stable config r.Names fun s => s.1.register = x.context.stores.register := by
    intro s t hmove hs
    cases hmove <;> exact hs
  exact hstable.request rfl

/-- The listeners and the register of a context are as its changes tell. -/
theorem accounted_after (config : Config) (world : World) (ops : List Op) :
    Accounted (changes ops) (after config world ops).context.listeners ∧
      (after config world ops).context.stores.register = recorded (journal (changes ops)) := by
  induction ops using List.reverseRecOn with
  | nil => exact ⟨⟨rfl, rfl, fun i q hq => by cases hq⟩, rfl⟩
  | append_singleton ops op ih =>
    rw [after_append, changes_append]
    cases op with
    | request r =>
      -- A request changes neither.
      change Accounted (changes ops) (run config _ r).2.1.listeners ∧
        (run config _ r).2.1.stores.register = _
      rw [listeners_run, register_run]
      exact ih
    | edit e =>
      change Accounted (e :: changes ops) (e.left _).listeners ∧
        (e.left _).stores.register = recorded (journal (e :: changes ops))
      rw [e.listeners_left, e.register_left, ih.2]
      exact ⟨ih.1.listeners e, ih.1.register e⟩

/-- The register of a context is what its journal leads to: what was set or fed,
    each at its time, and at each drive the messages that the queue of the listener
    at work took since the last one, once each and in the order they were sent. A
    queue takes messages until it is closed. A message whose listener is not at
    work by the next drive changes nothing, whatever comes after, and no PKI ID is
    ever lost. -/
theorem messages_applied_once (config : Config) (world : World) (ops : List Op) :
    let x := after config world ops
    x.context.stores.register =
        Register.left (Write.applyAll (journal (changes ops))) .empty ∧
      x.context.listeners.current = working? (changes ops) ∧
      (∀ i, working? (changes ops) = some i →
        x.context.listeners.accepts i = !closed i (changes ops)) ∧
      (∀ i message between rest, i < started (changes ops) → .edit .drive ∉ between →
        working? (changes (ops ++ between)) ≠ some i →
        (after config world
            (ops ++ .edit (.send i message) :: between ++ rest)).context.stores.register =
          (after config world (ops ++ between ++ rest)).context.stores.register) ∧
      ∀ rest, x.context.stores.register.size ≤
        (after config world (ops ++ rest)).context.stores.register.size := by
  intro x
  obtain ⟨haccounted, hregister⟩ := accounted_after config world ops
  refine ⟨hregister, haccounted.current_eq, fun i hi => ?_,
    fun i message between rest hi hdrive hworking => ?_, fun rest => ?_⟩
  · obtain ⟨q, hq, hfits⟩ := haccounted.exists_queue hi
    rw [Listeners.accepts, hq]
    exact hfits.accepts_of_working
  · rw [(accounted_after config world _).2, (accounted_after config world _).2]
    rw [changes_append] at hworking
    have hsame := sameBut_of_lost hi (mt mem_changes.1 hdrive) hworking message (changes rest)
    rw [changes_append, changes_append ops, changes_cons, changes_append, changes_append ops,
      List.append_assoc]
    exact congrArg recorded hsame.journal_eq
  · rw [hregister, (accounted_after config world _).2, changes_append]
    obtain ⟨more, hmore⟩ := exists_journal_append (changes ops) (changes rest)
    rw [hmore, recorded_append]
    exact Table.size_le_size_insertAll _ _

/-- Surroundings that know nothing. -/
def silent : World where
  outside :=
    ⟨[], fun _ => .ok [], fun channel name => .error (.chaincodeQuery channel name "unknown")⟩
  readings _ := 0
  draws _ := 0

/-- A message that names the organisation of a peer. -/
def naming (mspId : String) : Message :=
  .identityUpdate ([(⟨[1]⟩, mspId)].map fun i => .ofMsp i.1 i.2)

theorem named_naming {mspId : String} (h : Travels (⟨[1]⟩, mspId)) :
    (naming mspId).named = [(⟨[1]⟩, mspId)] :=
  named_identityUpdate (List.forall_mem_singleton.2 h)

/-- A message waits for a listener when it is replaced, and another for the one
    that replaces it when its queue is closed. -/
theorem replaced_listener_reads_nothing :
    let between := [.edit .listen, .edit (.send 1 (naming "B")), .edit (.closeQueue 1)]
    (after {} silent ([.edit .listen] ++ .edit (.send 0 (naming "A")) :: between ++
        [.edit .drive])).context.stores.register = Table.empty.insert ⟨[1]⟩ "B" := by
  intro between
  obtain ⟨-, -, -, hlost, -⟩ := messages_applied_once {} silent [.edit .listen]
  obtain ⟨hregister, -⟩ := messages_applied_once {} silent
    ([.edit .listen] ++ between ++ [.edit .drive])
  have hjournal : journal (changes ([.edit .listen] ++ between ++ [.edit .drive])) =
      [naming "B"].map reading := rfl
  have htravels : Travels (⟨[1]⟩, "B") := by
    rw [Travels]
    decide
  rw [hlost 0 (naming "A") between [.edit .drive] (by decide) (by simp [between]) (by decide),
    hregister, hjournal, Register.left_writes, flatMap_named_reading, List.flatMap_singleton,
    named_naming htravels]
  rfl

end System

end Endorsement.Selection
