import TypeGauge.Proofs.Check.Conservation
import TypeGauge.Proofs.Check.Specification
import Mathlib.Data.List.NodupEquivFin

/-!
# The exemption protocol

At one desk names are registered, the register is closed, names are asked about, and
reports are deferred and flushed, in any order and with calls that are refused among
them.  A log keeps every call together with the desk as the call found it, so that what
came of a call can be read off it.

A register never changes once it is closed, and before that no question is answered.
So every answer, and every report that a flush lets through, was decided by the register
that the log ends with.  That register holds the names that were registered with success,
whenever that was, and nothing else.
-/

namespace TypeGauge.Check

open TypeGauge.Data

variable {α : Type}

/-! ## Names in a register -/

/-- Both values can be used as names, and as names they are the same. -/
def SameName (first second : Value) : Prop :=
  ∃ key, NameKey.ofValue first = .ok key ∧ NameKey.ofValue second = .ok key

theorem SameName.congr {first second third : Value} (same : SameName first second) :
    SameName third first ↔ SameName third second := by
  rcases same with ⟨key, firstKey, secondKey⟩
  simp only [SameName, firstKey, secondKey]

theorem SameName.eq_null_iff {first second : Value} (same : SameName first second) :
    first = .null ↔ second = .null := by
  rcases same with ⟨key, firstKey, secondKey⟩
  have isNull {name : Value} (usable : NameKey.ofValue name = .ok key) :
      name = .null ↔ key = .null := by
    cases name with
    | null => simp_all [NameKey.ofValue]
    | double number =>
        cases whole : Number.Binary.exactInt? number <;>
          simp [NameKey.ofValue, whole] at usable <;> simp [← usable]
    | list items => cases usable
    | object fields => cases usable
    | _ =>
        simp only [NameKey.ofValue, Except.ok.injEq] at usable
        simp [← usable]
  rw [isNull firstKey, isNull secondKey]

namespace Register

variable {register next : Register} {name : Value}

/-- A name is registered with success while the register is open, if it can be used as one. -/
theorem add_eq_ok_iff :
    register.add name = .ok next ↔
      register.isClosed = false ∧
        ∃ key, NameKey.ofValue name = .ok key ∧ register.enter (some (key, name)) = next := by
  cases closed : register.isClosed with
  | true => simp [add, closed]
  | false =>
      rw [add_eq closed, map_eq_ok_iff]
      simp

/-- A closed register answers by the names that it holds. -/
theorem isExempt_eq_ok_iff {answer : Bool} :
    register.isExempt name = .ok answer ↔
      register.isClosed = true ∧
        ∃ key, NameKey.ofValue name = .ok key ∧
          (answer = true ↔ name ≠ .null ∧ register.hasKey key = true) := by
  cases closed : register.isClosed with
  | false => simp [isExempt, closed]
  | true =>
      by_cases absent : name = .null
      · subst absent
        cases answer <;> simp [isExempt, closed, Value.isNull, NameKey.ofValue]
      · have present : name.isNull = false := by
          cases name with
          | null => exact absurd rfl absent
          | _ => rfl
        have looked : register.isExempt name = (NameKey.ofValue name).map register.hasKey := by
          simp [isExempt, closed, present, contains]
        rw [looked, map_eq_ok_iff]
        cases answer <;> simp [absent]

/-- A question is answered once the register is closed, if the name can be used as one. -/
theorem exists_answer_iff :
    (∃ answer, register.isExempt name = .ok answer) ↔
      register.isClosed = true ∧ ∃ key, NameKey.ofValue name = .ok key := by
  constructor
  · rintro ⟨answer, answered⟩
    rcases isExempt_eq_ok_iff.mp answered with ⟨closed, key, usable, _⟩
    exact ⟨closed, key, usable⟩
  · rintro ⟨closed, key, usable⟩
    refine ⟨!name.isNull && register.hasKey key, ?_⟩
    rw [isExempt_eq_ok_iff]
    refine ⟨closed, key, usable, ?_⟩
    cases name <;> simp [Value.isNull]

end Register

/-! ## Calls and their log -/

namespace Desk

/-- A request, or the question whether a validator is exempt. -/
inductive Call (α : Type) where
  | request (request : Request α)
  | ask (name : Value)

/-- The desk after a call.  A question leaves it as it is. -/
def afterCall (desk : Desk α) : Call α → Desk α
  | .request request => desk.after request
  | .ask _ => desk

/-- The desk after several calls. -/
def afterCalls (desk : Desk α) (calls : List (Call α)) : Desk α :=
  calls.foldl afterCall desk

/-- Every call with the desk as the call found it, the first call first. -/
abbrev Log (α : Type) :=
  List (Desk α × Call α)

/-- The log of calls that begin at a desk. -/
def log : Desk α → List (Call α) → Log α
  | _, [] => []
  | desk, call :: rest => (desk, call) :: log (desk.afterCall call) rest

theorem afterCalls_append (desk : Desk α) (first second : List (Call α)) :
    desk.afterCalls (first ++ second) = (desk.afterCalls first).afterCalls second :=
  List.foldl_append

theorem log_concat (desk : Desk α) (calls : List (Call α)) (call : Call α) :
    desk.log (calls ++ [call]) = desk.log calls ++ [(desk.afterCalls calls, call)] := by
  induction calls generalizing desk with
  | nil => rfl
  | cons head rest hypothesis =>
      rw [List.cons_append, log, hypothesis]
      rfl

/-- A desk in a log is the one that the calls before it lead to. -/
theorem exists_split_of_mem_log {desk found : Desk α} {calls : List (Call α)} {call : Call α}
    (member : (found, call) ∈ desk.log calls) :
    ∃ first second, calls = first ++ second ∧ found = desk.afterCalls first := by
  induction calls generalizing desk with
  | nil => cases member
  | cons head rest hypothesis =>
      rw [log, List.mem_cons, Prod.mk.injEq] at member
      rcases member with ⟨rfl, _⟩ | later
      · exact ⟨[], head :: rest, rfl, rfl⟩
      · rcases hypothesis later with ⟨first, second, rfl, rfl⟩
        exact ⟨head :: first, second, rfl, rfl⟩

namespace Log

/-- The names that calls have registered, without those that were refused. -/
def registered (log : Log α) : List Value :=
  log.filterMap fun entry =>
    match entry.2 with
    | .request (.register name) => (entry.1.register.add name).toOption.map fun _ => name
    | _ => none

def deferred (log : Log α) : List (DeferredReport α) :=
  log.filterMap fun entry =>
    match entry.2 with
    | .request (.defer report) => some report
    | _ => none

/-- What the flushes that went through have returned, one after the other. -/
def returned (log : Log α) : List (DeferredReport α) :=
  log.flatMap fun entry =>
    match entry.2 with
    | .request .flush => entry.1.flushed.toOption.getD []
    | _ => []

/-- A question about the name was answered. -/
def Answers (log : Log α) (name : Value) (answer : Bool) : Prop :=
  ∃ desk, (desk, .ask name) ∈ log ∧ desk.register.isExempt name = .ok answer

/-- A report that was returned came from a flush that went through. -/
theorem exists_flush_of_mem_returned {log : Log α} {report : DeferredReport α}
    (member : report ∈ log.returned) :
    ∃ desk kept, (desk, .request .flush) ∈ log ∧ desk.flushed = .ok kept ∧ report ∈ kept := by
  rw [returned, List.mem_flatMap] at member
  rcases member with ⟨⟨desk, call⟩, found, inside⟩
  cases call with
  | ask name => cases inside
  | request request =>
      cases request with
      | flush =>
          cases ended : desk.flushed with
          | error fault =>
              simp only [ended] at inside
              cases inside
          | ok kept =>
              simp only [ended] at inside
              exact ⟨desk, kept, found, ended, inside⟩
      | _ => cases inside

end Log

/-! ## What a call does -/

/-- A register that is closed stays as it is. -/
theorem register_afterCall {desk : Desk α} (closed : desk.register.isClosed = true)
    (call : Call α) : (desk.afterCall call).register = desk.register := by
  cases call with
  | ask name => rfl
  | request request =>
      cases request with
      | register name =>
          have refused : desk.register.add name = .error (.lateRegistration name) := by
            rw [Register.add, if_pos closed]
          rw [afterCall, after, refused]
      | close =>
          change { desk.register with isClosed := true } = desk.register
          rw [← closed]
      | defer report => rfl
      | flush => rfl

/-- What the log says about the register and the queue is so. -/
structure Reflects (desk : Desk α) (log : Log α) : Prop where
  closed : desk.register.isClosed = true ↔ .request .close ∈ log.map Prod.snd
  names : ∀ key, desk.register.hasKey key = true ↔
    ∃ name ∈ log.registered, NameKey.ofValue name = .ok key
  /-- What was returned and what is pending were deferred in this order, each of them once. -/
  reports : (log.returned ++ desk.queue.pending).Sublist log.deferred

namespace Reflects

variable {desk : Desk α} {log : Log α}

/-- Only registrations with success, deferrals and flushes leave a trace in what a log says. -/
theorem register (reflects : desk.Reflects log) (name : Value) :
    (desk.after (.register name)).Reflects (log ++ [(desk, .request (.register name))]) := by
  cases added : desk.register.add name with
  | error fault =>
      have same : desk.after (.register name) = desk := by
        rw [after, added]
      rw [same]
      constructor
      · simpa using reflects.closed
      · simpa [Log.registered, added, Except.toOption] using reflects.names
      · simpa [Log.returned, Log.deferred] using reflects.reports
  | ok next =>
      have same : desk.after (.register name) = { desk with register := next } := by
        rw [after, added]
      rw [same]
      rcases Register.add_eq_ok_iff.mp added with ⟨_, nameKey, usable, rfl⟩
      constructor
      · simpa [Register.enter_isClosed] using reflects.closed
      · intro key
        have earlier := reflects.names key
        simp only [Log.registered] at earlier
        simp [Register.hasKey_enter, Log.registered, added, Except.toOption, usable, or_and_right,
          exists_or, earlier]
      · simpa [Log.returned, Log.deferred] using reflects.reports

theorem close (reflects : desk.Reflects log) :
    (desk.after .close).Reflects (log ++ [(desk, .request .close)]) := by
  constructor
  · simp [after, Register.close]
  · simpa [after, Register.close, Register.hasKey, Log.registered] using reflects.names
  · simpa [after, Log.returned, Log.deferred] using reflects.reports

theorem defer (reflects : desk.Reflects log) (report : DeferredReport α) :
    (desk.after (.defer report)).Reflects (log ++ [(desk, .request (.defer report))]) := by
  constructor
  · simpa [after] using reflects.closed
  · simpa [after, Log.registered] using reflects.names
  · have longer := reflects.reports.append_right [report]
    simpa [after, DeferredQueue.defer, Log.returned, Log.deferred] using longer

/-- A flush returns some of what is pending, or nothing when it is refused. -/
theorem flush (reflects : desk.Reflects log) :
    (desk.after .flush).Reflects (log ++ [(desk, .request .flush)]) := by
  constructor
  · simpa [after] using reflects.closed
  · simpa [after, Log.registered] using reflects.names
  · have kept : (desk.flushed.toOption.getD []).Sublist desk.queue.pending := by
      cases ended : desk.flushed with
      | error fault => exact List.nil_sublist _
      | ok kept =>
          change kept.Sublist _
          rw [(unexempted_eq_ok_iff.mp ended).2]
          exact List.filter_sublist
    have fewer := (kept.append_left log.returned).trans reflects.reports
    simpa [after, DeferredQueue.flush, DeferredQueue.empty, Log.returned, Log.deferred] using fewer

theorem ask (reflects : desk.Reflects log) (name : Value) :
    desk.Reflects (log ++ [(desk, .ask name)]) := by
  constructor
  · simpa using reflects.closed
  · simpa [Log.registered] using reflects.names
  · simpa [Log.returned, Log.deferred] using reflects.reports

theorem afterCall (reflects : desk.Reflects log) (call : Call α) :
    (desk.afterCall call).Reflects (log ++ [(desk, call)]) := by
  cases call with
  | ask name => exact reflects.ask name
  | request request =>
      cases request with
      | register name => exact reflects.register name
      | close => exact reflects.close
      | defer report => exact reflects.defer report
      | flush => exact reflects.flush

end Reflects

/-! ## What all calls do -/

theorem register_afterCalls {desk : Desk α} (closed : desk.register.isClosed = true)
    (calls : List (Call α)) : (desk.afterCalls calls).register = desk.register := by
  induction calls generalizing desk with
  | nil => rfl
  | cons call rest hypothesis =>
      have same := register_afterCall closed call
      rw [← same] at closed
      exact (hypothesis closed).trans same

/-- A closed register in a log is the one that the log ends with. -/
theorem register_of_mem_log {desk found : Desk α} {calls : List (Call α)} {call : Call α}
    (member : (found, call) ∈ desk.log calls) (closed : found.register.isClosed = true) :
    (desk.afterCalls calls).register = found.register := by
  rcases exists_split_of_mem_log member with ⟨first, second, rfl, rfl⟩
  rw [afterCalls_append]
  exact register_afterCalls closed second

theorem reflects_log (calls : List (Call α)) :
    (fresh.afterCalls calls).Reflects (fresh.log calls) := by
  induction calls using List.reverseRecOn with
  | nil =>
      constructor
      · simp [afterCalls, fresh, Register.empty, log]
      · simp [afterCalls, fresh, Register.empty, Register.hasKey, log, Log.registered]
      · exact .slnil
  | append_singleton calls call hypothesis =>
      rw [afterCalls_append, log_concat]
      exact hypothesis.afterCall call

theorem map_snd_log (desk : Desk α) (calls : List (Call α)) :
    (desk.log calls).map Prod.snd = calls := by
  induction calls generalizing desk with
  | nil => rfl
  | cons call rest hypothesis => rw [log, List.map_cons, hypothesis]

/-- The register that a log ends with holds a name exactly when the same name was registered. -/
theorem hasKey_iff_registered (calls : List (Call α)) {name : Value} {key : NameKey}
    (usable : NameKey.ofValue name = .ok key) :
    (fresh.afterCalls calls).register.hasKey key = true ↔
      ∃ other ∈ (fresh.log calls).registered, SameName other name := by
  rw [(reflects_log calls).names key]
  constructor
  · rintro ⟨other, member, otherKey⟩
    exact ⟨other, member, key, otherKey, usable⟩
  · rintro ⟨other, member, found, otherKey, nameKey⟩
    rw [usable, Except.ok.injEq] at nameKey
    exact ⟨other, member, nameKey ▸ otherKey⟩

/-- Every answer that was given is the one that the whole log justifies. -/
theorem answer_iff {calls : List (Call α)} {name : Value} {answer : Bool}
    (answers : (fresh.log calls).Answers name answer) :
    answer = true ↔
      name ≠ .null ∧ ∃ other ∈ (fresh.log calls).registered, SameName other name := by
  rcases answers with ⟨desk, member, answered⟩
  rcases Register.isExempt_eq_ok_iff.mp answered with ⟨closed, key, usable, decided⟩
  rw [decided, ← register_of_mem_log member closed, hasKey_iff_registered calls usable]

/-- No report that was returned has a name that was registered at any time. -/
theorem not_registered_of_mem_returned {calls : List (Call α)} {report : DeferredReport α}
    (member : report ∈ (fresh.log calls).returned) (named : report.name ≠ .null)
    {other : Value} (registered : other ∈ (fresh.log calls).registered) :
    ¬ SameName other report.name := by
  intro same
  rcases Log.exists_flush_of_mem_returned member with ⟨desk, kept, flushed, ended, inside⟩
  rcases unexempted_eq_ok_iff.mp ended with ⟨looked, rfl⟩
  rw [List.mem_filter] at inside
  rcases looked report inside.1 with ⟨exempt, answered⟩
  rcases Register.isExempt_eq_ok_iff.mp answered with ⟨closed, key, usable, decided⟩
  rw [← register_of_mem_log flushed closed, hasKey_iff_registered calls usable] at decided
  have isExempt : exempt = true := decided.mpr ⟨named, other, registered, same⟩
  simp [Register.exempts, answered, isExempt] at inside

end Desk

open Desk

/--
Take any calls at a fresh desk, refused ones included.  The register is closed from the
first closing on, and from then on it never changes.  A question is answered exactly when it
finds the register closed and the name usable; the answer is yes exactly when the name is not
null and the same name was registered with success, so questions about the same name have the
same answer.  What all flushes together return is picked from the deferred reports in their
order, each of them at most once, and no report that is returned has a name that was ever
registered with success.
-/
theorem exemption_protocol_is_sound (calls : List (Desk.Call α)) :
    (∀ first second, calls = first ++ second →
      ((fresh.afterCalls first).register.isClosed = true ↔ .request .close ∈ first) ∧
        ((fresh.afterCalls first).register.isClosed = true →
          (fresh.afterCalls calls).register = (fresh.afterCalls first).register)) ∧
      (∀ desk name, (desk, .ask name) ∈ fresh.log calls →
        ((∃ answer, desk.register.isExempt name = .ok answer) ↔
          desk.register.isClosed = true ∧ ∃ key, NameKey.ofValue name = .ok key)) ∧
      (∀ name answer, (fresh.log calls).Answers name answer →
        (answer = true ↔
          name ≠ .null ∧ ∃ other ∈ (fresh.log calls).registered, SameName other name)) ∧
      (∀ name other answer otherAnswer, SameName name other →
        (fresh.log calls).Answers name answer → (fresh.log calls).Answers other otherAnswer →
          answer = otherAnswer) ∧
      (∃ place : Fin (fresh.log calls).returned.length ↪o Fin (fresh.log calls).deferred.length,
        ∀ number, (fresh.log calls).returned.get number =
          (fresh.log calls).deferred.get (place number)) ∧
      ∀ report ∈ (fresh.log calls).returned, report.name ≠ .null →
        ∀ other ∈ (fresh.log calls).registered, ¬ SameName other report.name := by
  refine ⟨?_, ?_, ?_, ?_, ?_, ?_⟩
  · rintro first second rfl
    refine ⟨?_, ?_⟩
    · rw [(reflects_log first).closed, map_snd_log]
    · intro closed
      rw [afterCalls_append]
      exact register_afterCalls closed second
  · intro desk name _
    exact Register.exists_answer_iff
  · intro name answer
    exact answer_iff
  · intro name other answer otherAnswer same answers otherAnswers
    rw [Bool.eq_iff_iff, answer_iff answers, answer_iff otherAnswers]
    simp only [ne_eq, same.eq_null_iff, same.congr]
  · have picked := (List.sublist_append_left _ _).trans (reflects_log calls).reports
    exact List.sublist_iff_exists_fin_orderEmbedding_get_eq.mp picked
  · intro report member named other registered
    exact not_registered_of_mem_returned member named registered

/-- One validator is registered in time; the other is registered too late and asked about. -/
def crossedCalls : List (Desk.Call Float) :=
  [.request (.defer ⟨.text "isUser", 19, none⟩), .request (.register (.text "isUser")),
    .request .close, .request (.register (.text "isPost")),
    .request (.defer ⟨.text "isPost", 18, none⟩), .ask (.text "isPost"), .request .flush]

/-- The late registration leaves no trace: the name is not exempt, and its report is returned. -/
theorem crossedCalls_are_sound :
    (fresh.log crossedCalls).Answers (.text "isPost") false ∧
      (¬ ∃ other ∈ (fresh.log crossedCalls).registered, SameName other (.text "isPost")) ∧
      (fresh.log crossedCalls).returned.map DeferredReport.name = [.text "isPost"] ∧
      (fresh.afterCalls crossedCalls).register =
        (fresh.afterCalls (crossedCalls.take 3)).register := by
  have answers : (fresh.log crossedCalls).Answers (.text "isPost") false :=
    ⟨fresh.afterCalls (crossedCalls.take 5), List.mem_of_getElem? (i := 5) rfl, rfl⟩
  rcases exemption_protocol_is_sound crossedCalls with ⟨settled, _, decided, _⟩
  refine ⟨answers, ?_, rfl, ?_⟩
  · intro registered
    have exempt := (decided _ _ answers).mpr ⟨Value.noConfusion, registered⟩
    cases exempt
  · exact (settled (crossedCalls.take 3) (crossedCalls.drop 3) rfl).2 rfl

end TypeGauge.Check
