import TypeGauge.Check.Exemption
import TypeGauge.Proofs.Outcome
import Mathlib.Data.List.Induction
import Mathlib.Data.List.Perm.Basic

/-!
# What becomes of deferred reports

A register of exempt names and a queue of deferred reports stand at one desk, and
requests arrive in any order.  A history gives every report that was ever deferred one
fate: it is still pending, some flush returned it, some flush dropped it because its
name is exempt, or some flush lost it.

A flush takes the pending reports out before it looks their names up, so when a name
cannot be looked up the whole batch is lost.  A session keeps all its reports exactly
when none of its flushes is refused.
-/

namespace TypeGauge.Check

open TypeGauge.Data TypeGauge.Syntax

variable {α : Type}

/-! ## Desks and sessions -/

/-- A register and a queue that are used together. -/
structure Desk (α : Type) where
  register : Register
  queue : DeferredQueue α

namespace Desk

inductive Request (α : Type) where
  | register (name : Value)
  | close
  | defer (report : DeferredReport α)
  | flush

def fresh : Desk α :=
  ⟨.empty, .empty⟩

/-- What a flush at this desk returns. -/
def flushed (desk : Desk α) : Except Fault (List (DeferredReport α)) :=
  (desk.queue.flush desk.register).1

def Refuses (desk : Desk α) : Prop :=
  ∃ fault, desk.flushed = .error fault

/-- The desk after a request.  A registration that is refused leaves the register as it was. -/
def after (desk : Desk α) : Request α → Desk α
  | .register name =>
      match desk.register.add name with
      | .ok register => { desk with register }
      | .error _ => desk
  | .close => { desk with register := desk.register.close }
  | .defer report => { desk with queue := desk.queue.defer report }
  | .flush => { desk with queue := (desk.queue.flush desk.register).2 }

end Desk

/-- A desk together with what happened at it. -/
structure Session (α : Type) where
  desk : Desk α
  /-- The reports that were deferred, the first one first. -/
  deferred : List (DeferredReport α)
  /-- The desk as each flush found it, the first flush first. -/
  flushes : List (Desk α)

namespace Session

def after (session : Session α) (request : Desk.Request α) : Session α where
  desk := session.desk.after request
  deferred :=
    match request with
    | .defer report => session.deferred ++ [report]
    | _ => session.deferred
  flushes :=
    match request with
    | .flush => session.flushes ++ [session.desk]
    | _ => session.flushes

/-- What a list of requests leads to at a fresh desk. -/
def of (requests : List (Desk.Request α)) : Session α :=
  requests.foldl after ⟨.fresh, [], []⟩

theorem of_concat (requests : List (Desk.Request α)) (request : Desk.Request α) :
    of (requests ++ [request]) = (of requests).after request := by
  rw [of, List.foldl_append]
  rfl

end Session

/-! ## Histories -/

/-- What became of a report; flushes are counted from nought. -/
inductive Fate where
  | pending
  | returned (flush : Nat)
  | dropped (flush : Nat)
  | lost (flush : Nat)
deriving DecidableEq

def Fate.isLost : Fate → Bool
  | .lost _ => true
  | _ => false

/-- Every deferred report, in order, with its fate. -/
abbrev History (α : Type) :=
  List (DeferredReport α × Fate)

namespace History

/-- The reports with a fate, in order. -/
def having (history : History α) (fate : Fate) : List (DeferredReport α) :=
  (history.filter fun entry => entry.2 = fate).map Prod.fst

/-- The history after every pending report has met the fate that a verdict gives it. -/
def settle (history : History α) (verdict : DeferredReport α → Fate) : History α :=
  history.map fun entry => if entry.2 = .pending then (entry.1, verdict entry.1) else entry

theorem having_append (first second : History α) (fate : Fate) :
    having (first ++ second) fate = first.having fate ++ second.having fate := by
  rw [having, List.filter_append, List.map_append]
  rfl

theorem having_cons (entry : DeferredReport α × Fate) (history : History α) (fate : Fate) :
    having (entry :: history) fate =
      if entry.2 = fate then entry.1 :: history.having fate else history.having fate := by
  by_cases same : entry.2 = fate
  · simp [having, same]
  · simp [having, same]

theorem having_eq_nil {history : History α} {fate : Fate}
    (absent : ∀ entry ∈ history, entry.2 ≠ fate) : history.having fate = [] := by
  rw [having, List.map_eq_nil_iff, List.filter_eq_nil_iff]
  intro entry member
  simpa using absent entry member

theorem exists_entry_of_having_ne_nil {history : History α} {fate : Fate}
    (present : history.having fate ≠ []) : ∃ entry ∈ history, entry.2 = fate := by
  by_contra absent
  apply present
  apply having_eq_nil
  intro entry member same
  exact absent ⟨entry, member, same⟩

theorem length_having (history : History α) (fate : Fate) :
    (history.having fate).length = (history.map Prod.snd).count fate := by
  rw [having, List.length_map, List.count_eq_countP, List.countP_map, List.countP_eq_length_filter]
  rfl

section Settle

variable {verdict : DeferredReport α → Fate}

theorem map_fst_settle (history : History α) (verdict : DeferredReport α → Fate) :
    (history.settle verdict).map Prod.fst = history.map Prod.fst := by
  rw [settle, List.map_map]
  apply List.map_congr_left
  intro entry _
  rw [Function.comp_apply]
  split <;> rfl

theorem mem_settle {history : History α} {entry : DeferredReport α × Fate}
    (member : entry ∈ history.settle verdict) :
    entry ∈ history ∨ entry.2 = verdict entry.1 := by
  rw [settle, List.mem_map] at member
  rcases member with ⟨earlier, found, rfl⟩
  by_cases pending : earlier.2 = .pending
  · right
    rw [if_pos pending]
  · left
    rwa [if_neg pending]

theorem having_pending_settle (settles : ∀ report, verdict report ≠ .pending)
    (history : History α) : (history.settle verdict).having .pending = [] := by
  apply having_eq_nil
  intro entry member
  rw [settle, List.mem_map] at member
  rcases member with ⟨earlier, _, rfl⟩
  by_cases pending : earlier.2 = .pending
  · rw [if_pos pending]
    exact settles earlier.1
  · rw [if_neg pending]
    exact pending

/-- A fate that no verdict gives is met by the same reports as before. -/
theorem having_settle_of_unused {fate : Fate} (unused : ∀ report, verdict report ≠ fate)
    (settled : fate ≠ .pending) (history : History α) :
    (history.settle verdict).having fate = history.having fate := by
  induction history with
  | nil => rfl
  | cons entry rest hypothesis =>
      rw [settle, List.map_cons, having_cons, having_cons]
      rw [settle] at hypothesis
      rw [hypothesis]
      by_cases pending : entry.2 = .pending
      · simp [pending, unused, settled.symm]
      · simp [pending]

/-- A fate that no report had before is met by the pending reports that the verdict gives it. -/
theorem having_settle_of_new {fate : Fate} {history : History α}
    (isNew : ∀ entry ∈ history, entry.2 ≠ fate) :
    (history.settle verdict).having fate =
      (history.having .pending).filter fun report => verdict report = fate := by
  induction history with
  | nil => rfl
  | cons entry rest hypothesis =>
      rw [List.forall_mem_cons] at isNew
      have restSettled := hypothesis isNew.2
      rw [settle] at restSettled
      rw [settle, List.map_cons, having_cons, having_cons, restSettled]
      by_cases pending : entry.2 = .pending
      · by_cases given : verdict entry.1 = fate
        · simp [pending, given]
        · simp [pending, given]
      · simp [pending, isNew.1]

end Settle

end History

/-! ## Flushes -/

/-- The name can be looked up, and it is exempt. -/
def Register.exempts (register : Register) (name : Value) : Bool :=
  match register.isExempt name with
  | .ok exempt => exempt
  | .error _ => false

/-- A batch goes through exactly when every name in it can be looked up. -/
theorem unexempted_eq_ok_iff
    {register : Register} {reports kept : List (DeferredReport α)} :
    unexempted register reports = .ok kept ↔
      (∀ report ∈ reports, ∃ exempt, register.isExempt report.name = .ok exempt) ∧
        kept = reports.filter fun report => !register.exempts report.name := by
  induction reports generalizing kept with
  | nil => simp [unexempted, eq_comm]
  | cons report rest hypothesis =>
      simp only [unexempted, bind_eq_ok_iff, hypothesis, List.forall_mem_cons]
      constructor
      · rintro ⟨exempt, looked, others, ⟨restLooked, rfl⟩, ended⟩
        refine ⟨⟨⟨exempt, looked⟩, restLooked⟩, ?_⟩
        cases ended
        cases exempt <;> simp [Register.exempts, looked]
      · rintro ⟨⟨⟨exempt, looked⟩, restLooked⟩, rfl⟩
        refine ⟨exempt, looked, _, ⟨restLooked, rfl⟩, ?_⟩
        cases exempt <;> simp [Register.exempts, looked, pure, Except.pure]

theorem exists_isExempt_iff (register : Register) (name : Value) :
    (∃ exempt, register.isExempt name = .ok exempt) ↔
      register.isClosed = true ∧ (∀ items, name ≠ .list items) ∧
        ∀ fields, name ≠ .object fields := by
  cases closed : register.isClosed with
  | false => simp [Register.isExempt, closed]
  | true =>
      cases name with
      | double number =>
          cases whole : Number.Binary.exactInt? number <;>
            simp [Register.isExempt, Register.contains, NameKey.ofValue, closed, whole,
              Value.isNull, Except.map]
      | _ =>
          simp [Register.isExempt, Register.contains, NameKey.ofValue, closed, Value.isNull,
            Except.map]

namespace Desk

theorem refuses_iff_exists {desk : Desk α} :
    desk.Refuses ↔
      ∃ report ∈ desk.queue.pending,
        ¬ ∃ exempt, desk.register.isExempt report.name = .ok exempt := by
  have through : (∃ kept, desk.flushed = .ok kept) ↔
      ∀ report ∈ desk.queue.pending, ∃ exempt, desk.register.isExempt report.name = .ok exempt := by
    simp only [flushed, DeferredQueue.flush, unexempted_eq_ok_iff, exists_and_left, exists_eq,
      and_true]
  have refused : desk.Refuses ↔ ¬ ∃ kept, desk.flushed = .ok kept := by
    rw [Refuses]
    cases desk.flushed <;> simp
  rw [refused, through]
  push Not
  rfl

/-- A flush is refused when something is pending and cannot be looked up. -/
theorem refuses_iff {desk : Desk α} :
    desk.Refuses ↔
      desk.queue.pending ≠ [] ∧
        (desk.register.isClosed = false ∨
          ∃ report ∈ desk.queue.pending,
            (∃ items, report.name = .list items) ∨ ∃ fields, report.name = .object fields) := by
  rw [refuses_iff_exists]
  simp only [exists_isExempt_iff]
  constructor
  · rintro ⟨report, member, unusable⟩
    refine ⟨List.ne_nil_of_mem member, ?_⟩
    cases closed : desk.register.isClosed with
    | false => exact .inl rfl
    | true =>
        right
        refine ⟨report, member, ?_⟩
        by_contra usable
        push Not at usable
        exact unusable ⟨closed, usable⟩
  · rintro ⟨filled, opened | ⟨report, member, compound⟩⟩
    · rcases List.exists_mem_of_ne_nil _ filled with ⟨report, member⟩
      exact ⟨report, member, by simp [opened]⟩
    · refine ⟨report, member, ?_⟩
      rintro ⟨_, noList, noObject⟩
      rcases compound with ⟨items, isList⟩ | ⟨fields, isObject⟩
      · exact noList items isList
      · exact noObject fields isObject

/-- What a flush, with its number, makes of a pending report. -/
def verdict (desk : Desk α) (number : Nat) (report : DeferredReport α) : Fate :=
  match desk.flushed with
  | .ok _ => if desk.register.exempts report.name then .dropped number else .returned number
  | .error _ => .lost number

theorem verdict_cases (desk : Desk α) (number : Nat) (report : DeferredReport α) :
    (∃ kept, desk.flushed = .ok kept ∧
      (desk.verdict number report = .returned number ∨
        desk.verdict number report = .dropped number)) ∨
      ∃ fault, desk.flushed = .error fault ∧ desk.verdict number report = .lost number := by
  cases ended : desk.flushed with
  | error fault => exact .inr ⟨fault, rfl, by simp [verdict, ended]⟩
  | ok kept =>
      refine .inl ⟨kept, rfl, ?_⟩
      cases exempt : desk.register.exempts report.name <;> simp [verdict, ended, exempt]

end Desk

/-! ## Accounts of sessions -/

namespace Session

/-- Only flushes that go through return or drop reports, and only refused flushes lose them. -/
def Gives (session : Session α) : Fate → Prop
  | .pending => True
  | .returned number | .dropped number =>
      ∃ desk kept, session.flushes[number]? = some desk ∧ desk.flushed = .ok kept
  | .lost number =>
      ∃ desk fault, session.flushes[number]? = some desk ∧ desk.flushed = .error fault

/-- The history says what happened in the session. -/
structure Accounts (session : Session α) (history : History α) : Prop where
  complete : history.map Prod.fst = session.deferred
  pending : history.having .pending = session.desk.queue.pending
  /-- What a flush returned was returned by it, and it dropped what is exempt. -/
  passed : ∀ number desk kept, session.flushes[number]? = some desk → desk.flushed = .ok kept →
    history.having (.returned number) = kept ∧
      history.having (.dropped number) =
        desk.queue.pending.filter fun report => desk.register.exempts report.name
  given : ∀ entry ∈ history, session.Gives entry.2

/-- Every flush that is refused lost all that was pending. -/
def LosesBatches (session : Session α) (history : History α) : Prop :=
  ∀ number desk fault, session.flushes[number]? = some desk → desk.flushed = .error fault →
    history.having (.lost number) = desk.queue.pending

/-- Every report is pending, returned by one flush, or dropped by one flush as exempt. -/
def Conserves (session : Session α) : Prop :=
  ∃ history, session.Accounts history ∧ ∀ entry ∈ history, entry.2.isLost = false

theorem getElem?_concat_eq_some_iff {flushes : List (Desk α)} {last desk : Desk α} {number : Nat} :
    (flushes ++ [last])[number]? = some desk ↔
      flushes[number]? = some desk ∨ (number = flushes.length ∧ desk = last) := by
  simp only [List.getElem?_eq_some_iff, List.length_append, List.length_singleton]
  constructor
  · rintro ⟨bound, found⟩
    rcases Nat.lt_or_eq_of_le (Nat.le_of_lt_succ bound) with earlier | rfl
    · rw [List.getElem_append_left earlier] at found
      exact .inl ⟨earlier, found⟩
    · rw [List.getElem_concat_length rfl] at found
      exact .inr ⟨rfl, found.symm⟩
  · rintro (⟨earlier, found⟩ | ⟨rfl, rfl⟩)
    · exact ⟨Nat.lt_succ_of_lt earlier, by rwa [List.getElem_append_left earlier]⟩
    · exact ⟨Nat.lt_succ_self _, List.getElem_concat_length rfl _⟩

section Accounts

variable {session : Session α} {history : History α}

/-- The flush that comes next has not given any fate yet. -/
theorem not_gives_next (session : Session α) :
    ¬ session.Gives (.returned session.flushes.length) ∧
      ¬ session.Gives (.dropped session.flushes.length) ∧
      ¬ session.Gives (.lost session.flushes.length) := by
  simp [Gives]

/-- What was given before the next flush stays given. -/
theorem Gives.flush {fate : Fate} (gives : session.Gives fate) :
    (session.after .flush).Gives fate := by
  cases fate with
  | pending => trivial
  | returned number | dropped number =>
      rcases gives with ⟨desk, kept, found, ended⟩
      exact ⟨desk, kept, getElem?_concat_eq_some_iff.mpr (.inl found), ended⟩
  | lost number =>
      rcases gives with ⟨desk, fault, found, ended⟩
      exact ⟨desk, fault, getElem?_concat_eq_some_iff.mpr (.inl found), ended⟩

theorem gives_verdict (session : Session α) (report : DeferredReport α) :
    (session.after .flush).Gives (session.desk.verdict session.flushes.length report) := by
  have last : (session.after .flush).flushes[session.flushes.length]? = some session.desk :=
    getElem?_concat_eq_some_iff.mpr (.inr ⟨rfl, rfl⟩)
  rcases session.desk.verdict_cases session.flushes.length report with
    ⟨kept, ended, same | same⟩ | ⟨fault, ended, same⟩
  · rw [same]
    exact ⟨session.desk, kept, last, ended⟩
  · rw [same]
    exact ⟨session.desk, kept, last, ended⟩
  · rw [same]
    exact ⟨session.desk, fault, last, ended⟩

/-- Accounts are about the deferred reports, the flushes and the queue, and nothing else. -/
theorem Accounts.congr {other : Session α} (accounts : session.Accounts history)
    (deferred : other.deferred = session.deferred) (flushes : other.flushes = session.flushes)
    (queue : other.desk.queue = session.desk.queue) : other.Accounts history := by
  constructor
  · rw [deferred]
    exact accounts.complete
  · rw [queue]
    exact accounts.pending
  · rw [flushes]
    exact accounts.passed
  · intro entry member
    have given := accounts.given entry member
    cases fate : entry.2 <;> simp_all [Gives]

theorem Accounts.defer (accounts : session.Accounts history) (report : DeferredReport α) :
    (session.after (.defer report)).Accounts (history ++ [(report, .pending)]) := by
  have others {fate : Fate} (settled : fate ≠ .pending) :
      History.having (history ++ [(report, .pending)]) fate = history.having fate := by
    rw [History.having_append, History.having_cons, if_neg settled.symm]
    exact List.append_nil _
  constructor
  · rw [List.map_append, accounts.complete]
    rfl
  · rw [History.having_append, accounts.pending]
    rfl
  · intro number desk kept found ended
    rw [others Fate.noConfusion, others Fate.noConfusion]
    exact accounts.passed number desk kept found ended
  · rw [List.forall_mem_append, List.forall_mem_singleton]
    exact ⟨fun entry member => accounts.given entry member, trivial⟩

theorem LosesBatches.defer (loses : session.LosesBatches history) (report : DeferredReport α) :
    (session.after (.defer report)).LosesBatches (history ++ [(report, .pending)]) := by
  intro number desk fault found ended
  rw [History.having_append, History.having_cons, if_neg Fate.noConfusion]
  rw [loses number desk fault found ended]
  exact List.append_nil _

/-- The history after the flush that comes next. -/
def settled (session : Session α) (history : History α) : History α :=
  history.settle (session.desk.verdict session.flushes.length)

/-- The flush that comes next adds to no fate that an earlier flush gave. -/
theorem having_settled_of_gives {fate : Fate} (gives : session.Gives fate)
    (flushed : fate ≠ .pending) : (session.settled history).having fate = history.having fate := by
  apply History.having_settle_of_unused _ flushed
  intro report same
  rcases session.not_gives_next with ⟨noReturn, noDrop, noLoss⟩
  rcases session.desk.verdict_cases session.flushes.length report with
    ⟨_, _, given | given⟩ | ⟨_, _, given⟩
  · rw [← same, given] at gives
    exact noReturn gives
  · rw [← same, given] at gives
    exact noDrop gives
  · rw [← same, given] at gives
    exact noLoss gives

/-- The flush that comes next gives its own fates to pending reports only. -/
theorem Accounts.having_settled_of_not_gives (accounts : session.Accounts history) {fate : Fate}
    (unused : ¬ session.Gives fate) :
    (session.settled history).having fate =
      session.desk.queue.pending.filter fun report =>
        session.desk.verdict session.flushes.length report = fate := by
  rw [settled, History.having_settle_of_new, accounts.pending]
  intro entry member same
  exact unused (same ▸ accounts.given entry member)

theorem Accounts.flush (accounts : session.Accounts history) :
    (session.after .flush).Accounts (session.settled history) := by
  rcases session.not_gives_next with ⟨noReturn, noDrop, _⟩
  constructor
  · rw [settled, History.map_fst_settle, accounts.complete]
    rfl
  · apply History.having_pending_settle
    intro report same
    rcases session.desk.verdict_cases session.flushes.length report with
      ⟨_, _, given | given⟩ | ⟨_, _, given⟩ <;>
      · rw [given] at same
        cases same
  · intro number desk kept found ended
    rcases getElem?_concat_eq_some_iff.mp found with earlier | ⟨rfl, rfl⟩
    · have returns : session.Gives (.returned number) := ⟨desk, kept, earlier, ended⟩
      have drops : session.Gives (.dropped number) := ⟨desk, kept, earlier, ended⟩
      rw [having_settled_of_gives returns Fate.noConfusion,
        having_settled_of_gives drops Fate.noConfusion]
      exact accounts.passed number desk kept earlier ended
    · rw [accounts.having_settled_of_not_gives noReturn,
        accounts.having_settled_of_not_gives noDrop, (unexempted_eq_ok_iff.mp ended).2]
      constructor
      · apply List.filter_congr
        intro report _
        cases exempt : session.desk.register.exempts report.name <;>
          simp [Desk.verdict, ended, exempt]
      · apply List.filter_congr
        intro report _
        cases exempt : session.desk.register.exempts report.name <;>
          simp [Desk.verdict, ended, exempt]
  · intro entry member
    rcases History.mem_settle member with earlier | same
    · exact (accounts.given entry earlier).flush
    · rw [same]
      exact session.gives_verdict entry.1

theorem LosesBatches.flush (accounts : session.Accounts history)
    (loses : session.LosesBatches history) :
    (session.after .flush).LosesBatches (session.settled history) := by
  intro number desk fault found ended
  rcases getElem?_concat_eq_some_iff.mp found with earlier | ⟨rfl, rfl⟩
  · have lost : session.Gives (.lost number) := ⟨desk, fault, earlier, ended⟩
    rw [having_settled_of_gives lost Fate.noConfusion]
    exact loses number desk fault earlier ended
  · rw [accounts.having_settled_of_not_gives session.not_gives_next.2.2, List.filter_eq_self]
    intro report _
    simp [Desk.verdict, ended]

/-- One more request keeps accounts possible. -/
theorem Accounts.after (accounts : session.Accounts history)
    (loses : session.LosesBatches history) (request : Desk.Request α) :
    ∃ next, (session.after request).Accounts next ∧ (session.after request).LosesBatches next := by
  cases request with
  | register name =>
      refine ⟨history, accounts.congr rfl rfl ?_, loses⟩
      change (session.desk.after (.register name)).queue = session.desk.queue
      rw [Desk.after]
      cases session.desk.register.add name with
      | ok register => rfl
      | error fault => rfl
  | close => exact ⟨history, accounts.congr rfl rfl rfl, loses⟩
  | defer report => exact ⟨_, accounts.defer report, loses.defer report⟩
  | flush => exact ⟨_, accounts.flush, loses.flush accounts⟩

end Accounts

/-- Every session has an account. -/
theorem exists_account (requests : List (Desk.Request α)) :
    ∃ history, (of requests).Accounts history ∧ (of requests).LosesBatches history := by
  induction requests using List.reverseRecOn with
  | nil =>
      refine ⟨[], ⟨rfl, rfl, ?_, ?_⟩, ?_⟩
      · intro number desk kept found
        cases found
      · intro entry member
        cases member
      · intro number desk fault found
        cases found
  | append_singleton requests request hypothesis =>
      rcases hypothesis with ⟨history, accounts, loses⟩
      rw [of_concat]
      exact accounts.after loses request

/-! ## When reports are lost -/

section Conservation

variable {session : Session α} {first second : History α}

/-- Two accounts agree on which reports met a fate, unless it is loss. -/
theorem Accounts.having_eq (accounts : session.Accounts first) (others : session.Accounts second)
    {fate : Fate} (kept : fate.isLost = false) : first.having fate = second.having fate := by
  by_cases gives : session.Gives fate
  · cases fate with
    | pending => rw [accounts.pending, others.pending]
    | returned number =>
        rcases gives with ⟨desk, kept, found, ended⟩
        rw [(accounts.passed number desk kept found ended).1,
          (others.passed number desk kept found ended).1]
    | dropped number =>
        rcases gives with ⟨desk, kept, found, ended⟩
        rw [(accounts.passed number desk kept found ended).2,
          (others.passed number desk kept found ended).2]
    | lost number => cases kept
  · have absent {history : History α} (accounts : session.Accounts history) :
        history.having fate = [] := by
      apply History.having_eq_nil
      intro entry member same
      exact gives (same ▸ accounts.given entry member)
    rw [absent accounts, absent others]

/-- When one account has no loss, no account has one: as many reports met every other fate. -/
theorem Accounts.forall_kept (accounts : session.Accounts first) (others : session.Accounts second)
    (kept : ∀ entry ∈ first, entry.2.isLost = false) :
    ∀ entry ∈ second, entry.2.isLost = false := by
  let isKept (fate : Fate) : Bool := !fate.isLost
  have allKept : (first.map Prod.snd).filter isKept = first.map Prod.snd := by
    rw [List.filter_eq_self, List.forall_mem_map]
    intro entry member
    simp [isKept, kept entry member]
  have alike : ((first.map Prod.snd).filter isKept).Perm ((second.map Prod.snd).filter isKept) := by
    rw [List.perm_iff_count]
    intro fate
    cases lost : fate.isLost with
    | true => simp [List.count_eq_zero_of_not_mem, isKept, lost]
    | false =>
        rw [List.count_filter (by simp [isKept, lost]), List.count_filter (by simp [isKept, lost]),
          ← History.length_having, ← History.length_having, accounts.having_eq others lost]
  have asMany : ((second.map Prod.snd).filter isKept).length = (second.map Prod.snd).length := by
    have deferred := congrArg List.length (accounts.complete.trans others.complete.symm)
    rw [List.length_map, List.length_map] at deferred
    rw [← alike.length_eq, allKept, List.length_map, List.length_map, deferred]
  intro entry member
  have isIn := List.length_filter_eq_length_iff.mp asMany entry.2 (List.mem_map_of_mem member)
  simpa [isKept] using isIn

/-- A session keeps all its reports exactly when none of its flushes is refused. -/
theorem conserves_iff (requests : List (Desk.Request α)) :
    (of requests).Conserves ↔ ∀ desk ∈ (of requests).flushes, ¬ desk.Refuses := by
  rcases exists_account requests with ⟨history, accounts, loses⟩
  constructor
  · rintro ⟨other, others, kept⟩ desk member refused
    rcases List.getElem?_of_mem member with ⟨number, found⟩
    have filled := (Desk.refuses_iff.mp refused).1
    rcases refused with ⟨fault, ended⟩
    rw [← loses number desk fault found ended] at filled
    rcases History.exists_entry_of_having_ne_nil filled with ⟨entry, isIn, lost⟩
    have isKept := others.forall_kept accounts kept entry isIn
    rw [lost] at isKept
    cases isKept
  · intro accepted
    refine ⟨history, accounts, ?_⟩
    intro entry member
    have given := accounts.given entry member
    cases fate : entry.2 with
    | lost number =>
        rw [fate] at given
        rcases given with ⟨desk, fault, found, ended⟩
        exact absurd ⟨fault, ended⟩ (accepted desk (List.mem_of_getElem? found))
    | pending | returned number | dropped number => rfl

end Conservation

end Session

/--
Every deferred report of every session has exactly one fate: it is still pending, one
flush that went through returned it or dropped it as exempt, or one flush that was
refused lost it, with all that was pending then.  So a session conserves its reports
exactly when none of its flushes is refused.  A flush is refused when something is pending
and either the register is still open or some pending name is no name at all; it then
leaves the queue empty.
-/
theorem reports_are_conserved_unless_a_flush_is_refused (requests : List (Desk.Request α)) :
    (∃ history, (Session.of requests).Accounts history ∧
      (Session.of requests).LosesBatches history) ∧
      ((Session.of requests).Conserves ↔
        ∀ desk ∈ (Session.of requests).flushes, ¬ desk.Refuses) ∧
      ∀ desk : Desk α,
        (desk.Refuses ↔
          desk.queue.pending ≠ [] ∧
            (desk.register.isClosed = false ∨
              ∃ report ∈ desk.queue.pending,
                (∃ items, report.name = .list items) ∨
                  ∃ fields, report.name = .object fields)) ∧
          (desk.after .flush).queue.pending = [] := by
  refine ⟨Session.exists_account requests, Session.conserves_iff requests, ?_⟩
  intro desk
  exact ⟨Desk.refuses_iff, rfl⟩

/-- Two validators, of which the first is registered in time and the second too late. -/
def lateRequests : List (Desk.Request Float) :=
  [.flush, .defer ⟨.text "isUser", 19, none⟩, .register (.text "isUser"), .close,
    .register (.text "isPost"), .defer ⟨.text "isPost", 18, none⟩, .flush]

/-- Both flushes go through, so one report is dropped, the other is returned and none is lost. -/
theorem lateRequests_are_conserved :
    (∀ desk ∈ (Session.of lateRequests).flushes, ¬ desk.Refuses) ∧
      (Session.of lateRequests).Conserves := by
  have ended : (Session.of lateRequests).flushes.all (fun desk => desk.flushed.toBool) = true := by
    decide +kernel
  have accepted : ∀ desk ∈ (Session.of lateRequests).flushes, ¬ desk.Refuses := by
    rintro desk member ⟨fault, refused⟩
    have through := List.all_eq_true.mp ended desk member
    rw [refused] at through
    cases through
  rcases reports_are_conserved_unless_a_flush_is_refused lateRequests with ⟨_, conserves, _⟩
  exact ⟨accepted, conserves.mpr accepted⟩

/-- A report on a validator that may yet turn out to be exempt. -/
def earlyReport : DeferredReport Float :=
  ⟨.text "isUser", 19, some .start⟩

/-- A flush while the register is open is refused, and the report that was pending is lost. -/
theorem earlyReport_is_lost :
    (Session.of [.defer earlyReport]).desk.queue.pending = [earlyReport] ∧
      (Session.of [.defer earlyReport]).desk.flushed = .error .earlyLookup ∧
      (Session.of [.defer earlyReport, .flush]).desk.queue.pending = [] ∧
      ¬ (Session.of [.defer earlyReport, .flush]).Conserves := by
  refine ⟨rfl, rfl, rfl, ?_⟩
  rw [Session.conserves_iff]
  intro accepted
  exact accepted _ (List.mem_singleton.mpr rfl) ⟨.earlyLookup, rfl⟩

end TypeGauge.Check
