import ItemQuery.Command.Run

/-!
# `Proofs.Command.Silence` — a run that fails has printed nothing

A run that fails must not look like one that found something: whoever reads its output line by line would take the
first half of a result for the whole. What was printed cannot be taken back, so that this is a matter of order, and of
every place where a command can still fail. It is proved part by part. A part that prints nothing may fail
(`Script.Silent`), a part that cannot fail may print (`Script.Succeeds`), and a script in which the first kind stands
before the second fails in silence.

## Contents
- `Script.Silent`, `Script.Succeeds`, `Script.FailsSilently`, with one rule for each act and for parts in a row.
- `perform_failsSilently`: every task.
- `output_of_failed`: every run.
-/

namespace ItemQuery.Command

open Store (Client Server)

/-! ## Scripts that fail in silence -/

namespace Script

variable {α β : Type} {x : Script α} {f : α → Script β}

/-- Nothing is printed. -/
def Silent (x : Script α) : Prop := ∀ act ∈ x.acts, act.printed = ""

/-- There is a result. -/
def Succeeds (x : Script α) : Prop := ∃ a, x.result = .ok a

/-- Nothing is printed before a fault. -/
def FailsSilently (x : Script α) : Prop := ∀ fault, x.result = .error fault → x.Silent

theorem Succeeds.failsSilently (h : x.Succeeds) : x.FailsSilently := by
  intro fault hfault
  obtain ⟨a, ha⟩ := h
  rw [ha] at hfault
  exact nomatch hfault

theorem Succeeds.bind (hx : x.Succeeds) (hf : ∀ a, (f a).Succeeds) : (x >>= f).Succeeds := by
  obtain ⟨a, ha⟩ := hx
  obtain ⟨b, hb⟩ := hf a
  rw [bind_of_ok ha]
  exact ⟨b, hb⟩

/-- **Silence comes first**: what is silent may be put before what fails in silence. -/
theorem Silent.bind (hx : x.Silent) (hf : ∀ a, (f a).FailsSilently) : (x >>= f).FailsSilently := by
  cases hresult : x.result with
  | error fault =>
      rw [bind_of_error hresult]
      exact fun _ _ => hx
  | ok a =>
      rw [bind_of_ok hresult]
      intro fault hfault act hact
      rcases List.mem_append.mp hact with hact | hact
      · exact hx act hact
      · exact hf a fault hfault act hact

theorem silent_ofExcept (r : Except CommandFault α) : (ofExcept r).Silent :=
  fun _ hact => absurd hact List.not_mem_nil

theorem silent_ask (a : Store.Answer α) : (ask a).Silent := by
  intro act hact
  obtain ⟨f, -, rfl⟩ := List.mem_map.mp hact
  rfl

theorem succeeds_print (text : String) : (print text).Succeeds := ⟨(), rfl⟩

theorem succeeds_note (text : String) : (note text).Succeeds := ⟨(), rfl⟩

theorem succeeds_forM {l : List α} {f : α → Script PUnit} (hf : ∀ a, (f a).Succeeds) : (l.forM f).Succeeds := by
  induction l with
  | nil => exact ⟨⟨⟩, rfl⟩
  | cons a l ih =>
      rw [List.forM_eq_forM, List.forM_cons]
      exact (hf a).bind fun _ => ih

/-- What is silent prints nothing at all. -/
theorem Silent.output_eq (h : x.Silent) : x.output = "" := by
  have hparts : x.acts.map Act.printed = x.acts.map fun _ => "" := List.map_congr_left h
  rw [output, hparts]
  induction x.acts with
  | nil => rfl
  | cons act acts ih => rw [List.map_cons, String.join_cons, ih, String.append_empty]

end Script

/-! ## Tasks that fail in silence -/

theorem ensureReachable_of_answer {client : Client} {server : Server} (h : server.answersPing = true) :
    ensureReachable client server = ⟨[.send .ping], .ok ()⟩ := by
  unfold ensureReachable
  rw [Script.bind_of_ok rfl, h]
  rfl

theorem ensureReachable_of_no_answer {client : Client} {server : Server} (h : server.answersPing = false) :
    ensureReachable client server = ⟨[.send .ping], .error (.ofStoreFault (unreachable client))⟩ := by
  unfold ensureReachable
  rw [Script.bind_of_ok rfl, h]
  rfl

/-- Asking whether the store is there prints nothing, whatever comes of it. -/
theorem silent_ensureReachable (client : Client) (server : Server) : (ensureReachable client server).Silent := by
  intro act hact
  have hacts : (ensureReachable client server).acts = [.send .ping] := by
    cases hserver : server.answersPing with
    | true => rw [ensureReachable_of_answer hserver]
    | false => rw [ensureReachable_of_no_answer hserver]
  rw [hacts, List.mem_singleton] at hact
  rw [hact]
  rfl

theorem succeeds_showRecords (docs : List Document) : (showRecords docs).Succeeds :=
  (Script.succeeds_forM fun _ => Script.succeeds_print _).bind fun _ => Script.succeeds_note _

theorem compileTask_failsSilently (w : Surroundings) (setup : Setup) (source : Source) (format : Format) :
    (compileTask w setup source format).FailsSilently := by
  refine (Script.silent_ofExcept _).bind fun x => ?_
  refine (Script.silent_ofExcept _).bind fun text => ?_
  exact (Script.succeeds_print _).failsSilently

theorem currenciesTask_succeeds (setup : Setup) (json : Bool) : (currenciesTask setup json).Succeeds := by
  unfold currenciesTask
  cases json with
  | true => exact Script.succeeds_print _
  | false =>
      refine (Script.succeeds_print _).bind fun _ => ?_
      refine (Script.succeeds_forM fun _ => Script.succeeds_print _).bind fun _ => ?_
      exact (Script.succeeds_print _).bind fun _ => Script.succeeds_print _

/-- All that is asked of a store is asked before a record is written. -/
theorem askStore_failsSilently (client : Client) (server : Server) (compiler : Compiler) (criteria : Option Criteria)
    (limit : Option Int64) : (askStore client server compiler criteria limit).FailsSilently := by
  refine (silent_ensureReachable _ _).bind fun _ => ?_
  refine (Script.silent_ask _).bind fun docs => ?_
  exact (succeeds_showRecords docs).failsSilently

theorem searchTask_failsSilently (w : Surroundings) (setup : Setup) (t : SearchTask) :
    (searchTask w setup t).FailsSilently := by
  refine (Script.silent_ofExcept _).bind fun criteria => ?_
  refine (Script.silent_ofExcept _).bind fun client => ?_
  exact askStore_failsSilently _ _ _ _ _

/-- **Every task fails in silence.** -/
theorem perform_failsSilently (w : Surroundings) (i : Invocation) : (perform w i).FailsSilently := by
  unfold perform
  cases i.task with
  | version => exact (Script.succeeds_print _).failsSilently
  | compile source format =>
      exact (Script.silent_ofExcept _).bind fun setup => compileTask_failsSilently w setup source format
  | currencies json =>
      exact (Script.silent_ofExcept _).bind fun setup => (currenciesTask_succeeds setup json).failsSilently
  | search t => exact (Script.silent_ofExcept _).bind fun setup => searchTask_failsSilently w setup t

/-! ## Outcomes -/

section

variable {w : Surroundings} {words : List String} {i : Invocation}

theorem run_of_invocation (hwords : Invocation.ofWords w.environment words = .ok i) :
    run w words = finished (perform w i) := by
  rw [run, hwords]

theorem run_of_stop {stop : Stop} (hwords : Invocation.ofWords w.environment words = .error stop) :
    run w words = stopped stop := by
  rw [run, hwords]

theorem finished_of_ok {s : Script Unit} (h : s.result = .ok ()) : finished s = ⟨0, s.output, s.notes, s.sent⟩ := by
  rw [finished, h]

theorem finished_of_error {s : Script Unit} {fault : CommandFault} (h : s.result = .error fault) :
    finished s = ⟨1, s.output, s.notes ++ Style.failure fault.message fault.help, s.sent⟩ := by
  rw [finished, h]

theorem sent_finished (s : Script Unit) : (finished s).sent = s.sent := by
  cases h : s.result with
  | ok u => rw [finished_of_ok h]
  | error fault => rw [finished_of_error h]

/-- A command line that is no task fails in silence too, and nothing is sent for it. -/
theorem stopped_fails_silently (stop : Stop) :
    ((stopped stop).exit ≠ 0 → (stopped stop).output = "") ∧ (stopped stop).sent = [] := by
  cases stop with
  | help => exact ⟨fun h => absurd rfl h, rfl⟩
  | version task => exact ⟨fun h => absurd rfl h, rfl⟩
  | usage reason => exact ⟨fun _ => rfl, rfl⟩

theorem output_of_failed (h : (run w words).exit ≠ 0) : (run w words).output = "" := by
  cases hwords : Invocation.ofWords w.environment words with
  | error stop =>
      rw [run_of_stop hwords] at h ⊢
      exact (stopped_fails_silently stop).1 h
  | ok i =>
      rw [run_of_invocation hwords] at h ⊢
      cases hresult : (perform w i).result with
      | ok u =>
          rw [finished_of_ok hresult] at h
          exact absurd rfl h
      | error fault =>
          have hsilent : (perform w i).Silent := perform_failsSilently w i fault hresult
          rw [finished_of_error hresult]
          exact hsilent.output_eq

theorem exit_of_error {fault : CommandFault} (hwords : Invocation.ofWords w.environment words = .ok i)
    (h : (perform w i).result = .error fault) : (run w words).exit = 1 := by
  rw [run_of_invocation hwords, finished_of_error h]

end

end ItemQuery.Command
