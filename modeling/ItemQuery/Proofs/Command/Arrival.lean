import ItemQuery.Proofs.Command.Silence
import ItemQuery.Proofs.Store.Search

/-!
# `Proofs.Command.Arrival` — searches that get to their store

What a search sends is a matter of order, like what it prints. Criteria are read and compiled first, and a client is
made from settings that passed their checks; a search that fails before has done nothing at all. One that gets to its
store (`Arrival`) carries all of this with it, and from there on two questions settle what is sent: whether the store
answers, and whether the limit is positive.

## Contents
- `Wants`, `Arrival`, `Arrival.requests`: a search at its store, and what it sends.
- `searchTask_of_refused`, `searchTask_of_unconnected`, `searchTask_of_connected`: how far a search gets.
- `Arrival.sent_perform`, `arrival_of_sent`: what is sent, and by whom.
- `run_fails_safely`: the whole.
-/

namespace ItemQuery.Command

open Store (Client Find Request Search Server StoreFault)

/-! ## Searches that get to their store -/

/-- **What a search asks for**: all records by their ids from the greatest down, or those of criteria that compile. -/
inductive Wants (w : Surroundings) (compiler : Compiler) (t : SearchTask) : Document → Option Document → Prop
  | latest (h : t.latest = true) : Wants w compiler t [] (some [("_id", .int32 (-1))])
  | compiled {x : Criteria} {ps : List Predicate} (h : t.latest = false) (hread : readCriteria w t.source = .ok x)
      (hcompile : compiler.compile x = .ok ps) : Wants w compiler t (Query.ofPredicates ps) none

/-- **A search that gets to its store**: its setup is found, what it asks for is known, and there is a client. -/
structure Arrival (w : Surroundings) (words : List String) where
  invocation : Invocation
  task : SearchTask
  setup : Setup
  filter : Document
  sort : Option Document
  client : Client
  reads : Invocation.ofWords w.environment words = .ok invocation
  searches : invocation.task = .search task
  finds : w.setup invocation.config = .ok setup
  wants : Wants w setup.configuration.compiler task filter sort
  connects : Client.connect w.driver (task.settings setup) = .ok client

namespace Arrival

variable {w : Surroundings} {words : List String}

/-- The store of a search. -/
def server (a : Arrival w words) : Server := w.server a.client.settings.uri

/-- The search over its client. -/
def search (a : Arrival w words) : Search := Search.ofClient a.client a.setup.configuration.compiler

/-- What the store is asked for. -/
def request (a : Arrival w words) : Find := a.search.request a.filter a.sort a.task.limit

/-- **All that a search sends** to its store: a ping, and a single request if the ping is answered and the limit is
    positive. -/
def requests (a : Arrival w words) : List Request :=
  if a.server.answersPing = true ∧ 0 < a.request.limit then [.ping, .find a.request] else [.ping]

end Arrival

/-! ## How far a search gets -/

section

variable {w : Surroundings} {setup : Setup} {t : SearchTask} {compiler : Compiler}

theorem searchCriteria_of_latest (h : t.latest = true) : searchCriteria w compiler t = .ok none := by
  rw [searchCriteria, if_pos h]

theorem searchCriteria_of_not_latest (h : t.latest = false) :
    searchCriteria w compiler t =
      (readCriteria w t.source).bind fun x =>
        ((compiler.compile x).mapError CommandFault.ofFault).bind fun _ => .ok (some x) := by
  rw [searchCriteria, h, if_neg Bool.false_ne_true]
  rfl

theorem searchCriteria_of_unread (h : t.latest = false) {fault : CommandFault}
    (hread : readCriteria w t.source = .error fault) : searchCriteria w compiler t = .error fault := by
  rw [searchCriteria_of_not_latest h, hread]
  rfl

theorem searchCriteria_of_refused (h : t.latest = false) {x : Criteria} {fault : Fault}
    (hread : readCriteria w t.source = .ok x) (hcompile : compiler.compile x = .error fault) :
    searchCriteria w compiler t = .error (.ofFault fault) := by
  rw [searchCriteria_of_not_latest h, hread, Except.bind, hcompile]
  rfl

theorem searchCriteria_of_compiled (h : t.latest = false) {x : Criteria} {ps : List Predicate}
    (hread : readCriteria w t.source = .ok x) (hcompile : compiler.compile x = .ok ps) :
    searchCriteria w compiler t = .ok (some x) := by
  rw [searchCriteria_of_not_latest h, hread, Except.bind, hcompile]
  rfl

/-- Criteria that a search goes on with are something that it asks for. -/
theorem exists_wants {criteria : Option Criteria} (h : searchCriteria w compiler t = .ok criteria) :
    ∃ filter sort, Wants w compiler t filter sort := by
  cases hlatest : t.latest with
  | true => exact ⟨_, _, .latest hlatest⟩
  | false =>
      cases hread : readCriteria w t.source with
      | error fault =>
          rw [searchCriteria_of_unread hlatest hread] at h
          exact nomatch h
      | ok x =>
          cases hcompile : compiler.compile x with
          | error fault =>
              rw [searchCriteria_of_refused hlatest hread hcompile] at h
              exact nomatch h
          | ok ps => exact ⟨_, _, .compiled hlatest hread hcompile⟩

/-- What a search wants is what it asks its store for. -/
theorem Wants.asked {filter : Document} {sort : Option Document} (h : Wants w compiler t filter sort) :
    ∃ criteria, searchCriteria w compiler t = .ok criteria ∧ ∀ client server,
      askFor (Search.ofClient client compiler) server criteria t.limit =
        (Search.ofClient client compiler).find server filter sort t.limit := by
  cases h with
  | latest hlatest => exact ⟨none, searchCriteria_of_latest hlatest, fun _ _ => rfl⟩
  | @compiled x ps hlatest hread hcompile =>
      refine ⟨some x, searchCriteria_of_compiled hlatest hread hcompile, fun client server => ?_⟩
      exact Search.search_of_compiled hcompile

theorem perform_search {i : Invocation} (h : i.task = .search t) :
    perform w i = Script.ofExcept (w.setup i.config) >>= fun setup => searchTask w setup t := by
  rw [perform, h]

/-- Without criteria to go on with, nothing is done. -/
theorem searchTask_of_refused {fault : CommandFault}
    (h : searchCriteria w setup.configuration.compiler t = .error fault) :
    searchTask w setup t = .ofExcept (.error fault) := by
  rw [searchTask, h, Script.ofExcept_error_bind]

/-- Without a client, nothing is done either. -/
theorem searchTask_of_unconnected {criteria : Option Criteria} {fault : StoreFault}
    (hcriteria : searchCriteria w setup.configuration.compiler t = .ok criteria)
    (hconnect : Client.connect w.driver (t.settings setup) = .error fault) :
    searchTask w setup t = .ofExcept (.error (.ofStoreFault fault)) := by
  rw [searchTask, hcriteria, Script.ofExcept_ok_bind, hconnect, Except.mapError, Script.ofExcept_error_bind]

theorem searchTask_of_connected {criteria : Option Criteria} {client : Client}
    (hcriteria : searchCriteria w setup.configuration.compiler t = .ok criteria)
    (hconnect : Client.connect w.driver (t.settings setup) = .ok client) :
    searchTask w setup t =
      askStore client (w.server client.settings.uri) setup.configuration.compiler criteria t.limit := by
  rw [searchTask, hcriteria, Script.ofExcept_ok_bind, hconnect, Except.mapError, Script.ofExcept_ok_bind]

end

/-! ## What is sent -/

namespace Script

variable {α β : Type} {x : Script α} {f : α → Script β}

theorem sent_bind_of_ok {a : α} (h : x.result = .ok a) : (x >>= f).sent = x.sent ++ (f a).sent := by
  rw [bind_of_ok h, sent, List.filterMap_append]
  rfl

theorem sent_bind_of_error {fault : CommandFault} (h : x.result = .error fault) : (x >>= f).sent = x.sent := by
  rw [bind_of_error h]
  rfl

/-- What sends nothing may come behind anything. -/
theorem sent_bind (hf : ∀ a, (f a).sent = []) : (x >>= f).sent = x.sent := by
  cases hresult : x.result with
  | error fault => exact sent_bind_of_error hresult
  | ok a => rw [sent_bind_of_ok hresult, hf, List.append_nil]

theorem sent_ofExcept_bind {r : Except CommandFault α} (hf : ∀ a, (f a).sent = []) : (ofExcept r >>= f).sent = [] :=
  sent_bind hf

theorem sent_forM {l : List α} {f : α → Script PUnit} (hf : ∀ a, (f a).sent = []) : (l.forM f).sent = [] := by
  induction l with
  | nil => rfl
  | cons a l ih =>
      rw [List.forM_eq_forM, List.forM_cons]
      have htail : (f a >>= fun _ => forM l f).sent = (f a).sent := sent_bind fun _ => ih
      rw [htail, hf]

theorem sent_ask (a : Store.Answer α) : (ask a).sent = a.sent.map Request.find := by
  show (a.sent.map fun f => Act.send (.find f)).filterMap Act.request? = _
  rw [List.filterMap_map]
  induction a.sent with
  | nil => rfl
  | cons f fs ih => exact congrArg _ ih

end Script

theorem sent_showRecords (docs : List Document) : (showRecords docs).sent = [] := by
  unfold showRecords
  rw [Script.sent_bind fun _ => rfl]
  exact Script.sent_forM fun _ => rfl

theorem sent_compileTask (w : Surroundings) (setup : Setup) (source : Source) (format : Format) :
    (compileTask w setup source format).sent = [] :=
  Script.sent_ofExcept_bind fun _ => Script.sent_ofExcept_bind fun _ => rfl

theorem sent_currenciesTask (setup : Setup) (json : Bool) : (currenciesTask setup json).sent = [] := by
  unfold currenciesTask
  cases json with
  | true => rfl
  | false =>
      refine (Script.sent_bind fun _ => ?_).trans rfl
      refine (Script.sent_bind fun _ => ?_).trans (Script.sent_forM fun _ => rfl)
      exact Script.sent_bind fun _ => rfl

theorem askStore_of_no_answer {client : Client} {server : Server} {compiler : Compiler} {criteria : Option Criteria}
    {limit : Option Int64} (h : server.answersPing = false) :
    askStore client server compiler criteria limit =
      ⟨[.send .ping], .error (.ofStoreFault (unreachable client))⟩ := by
  rw [askStore, ensureReachable_of_no_answer h]
  rfl

/-- Behind a ping that is answered, what is sent is what the search sends. -/
theorem sent_askStore_of_answer {client : Client} {server : Server} {compiler : Compiler}
    {criteria : Option Criteria} {limit : Option Int64} (h : server.answersPing = true) :
    (askStore client server compiler criteria limit).sent =
      .ping :: (askFor (Search.ofClient client compiler) server criteria limit).sent.map Request.find := by
  rw [askStore, ensureReachable_of_answer h, Script.sent_bind_of_ok rfl, Script.sent_bind sent_showRecords,
    Script.sent_ask]
  rfl

namespace Arrival

variable {w : Surroundings} {words : List String}

/-- What a search does that gets to its store. -/
theorem perform_eq (a : Arrival w words) :
    ∃ criteria, perform w a.invocation =
        askStore a.client a.server a.setup.configuration.compiler criteria a.task.limit ∧
      askFor a.search a.server criteria a.task.limit = a.search.find a.server a.filter a.sort a.task.limit := by
  obtain ⟨criteria, hcriteria, hasked⟩ := a.wants.asked
  refine ⟨criteria, ?_, hasked _ _⟩
  rw [perform_search a.searches, a.finds, Script.ofExcept_ok_bind]
  exact searchTask_of_connected hcriteria a.connects

/-- **What is sent to the store** of a search. -/
theorem sent_perform (a : Arrival w words) : (perform w a.invocation).sent = a.requests := by
  obtain ⟨criteria, hperform, hasked⟩ := a.perform_eq
  rw [hperform, requests]
  cases hanswer : a.server.answersPing with
  | false =>
      rw [askStore_of_no_answer hanswer, if_neg fun h => Bool.false_ne_true h.1]
      rfl
  | true =>
      rw [sent_askStore_of_answer hanswer]
      show _ :: (askFor a.search _ _ _).sent.map _ = _
      rw [hasked]
      by_cases hlimit : 0 < a.request.limit
      · rw [Search.find_of_pos hlimit, if_pos ⟨rfl, hlimit⟩]
        rfl
      · rw [Search.find_of_not_pos hlimit, if_neg fun h => hlimit h.2]
        rfl

/-- A search whose store fails, also behind some records, fails. -/
theorem fails_of_interrupted (a : Arrival w words) {docs : List Document} {message : String}
    (h : a.server.reply a.request = .interrupted docs message) :
    ∃ fault, (perform w a.invocation).result = .error fault := by
  obtain ⟨criteria, hperform, hasked⟩ := a.perform_eq
  rw [hperform]
  cases hanswer : a.server.answersPing with
  | false =>
      rw [askStore_of_no_answer hanswer]
      exact ⟨_, rfl⟩
  | true =>
      have hasks : a.search.Asks a.server a.filter a.sort a.task.limit _ := Search.find_asks
      cases hresult : (a.search.find a.server a.filter a.sort a.task.limit).result with
      | ok found =>
          obtain ⟨records, hrecords, -⟩ := hasks.shown found hresult
          exact nomatch h.symm.trans hrecords
      | error fault =>
          have hask : (Script.ask (askFor a.search a.server criteria a.task.limit)).result =
              .error (.ofStoreFault fault) := by
            rw [hasked, Script.ask, hresult]
            rfl
          refine ⟨.ofStoreFault fault, ?_⟩
          rw [askStore, ensureReachable_of_answer hanswer, Script.bind_of_ok rfl]
          show (Script.ask (askFor a.search a.server criteria a.task.limit) >>= showRecords).result = _
          rw [Script.bind_of_error hask]

end Arrival

section

variable {w : Surroundings} {words : List String} {i : Invocation}

/-- **What sends anything** is a search that gets to its store. -/
theorem arrival_of_sent (hwords : Invocation.ofWords w.environment words = .ok i) (h : (perform w i).sent ≠ []) :
    Nonempty (Arrival w words) := by
  cases htask : i.task with
  | version =>
      rw [perform, htask] at h
      exact absurd rfl h
  | compile source format =>
      rw [perform, htask] at h
      exact absurd (Script.sent_ofExcept_bind fun setup => sent_compileTask w setup source format) h
  | currencies json =>
      rw [perform, htask] at h
      exact absurd (Script.sent_ofExcept_bind fun setup => sent_currenciesTask setup json) h
  | search t =>
      rw [perform_search htask] at h
      cases hsetup : w.setup i.config with
      | error fault =>
          rw [hsetup] at h
          exact absurd rfl h
      | ok setup =>
          rw [hsetup, Script.ofExcept_ok_bind] at h
          cases hcriteria : searchCriteria w setup.configuration.compiler t with
          | error fault =>
              rw [searchTask_of_refused hcriteria] at h
              exact absurd rfl h
          | ok criteria =>
              cases hconnect : Client.connect w.driver (t.settings setup) with
              | error fault =>
                  rw [searchTask_of_unconnected hcriteria hconnect] at h
                  exact absurd rfl h
              | ok client =>
                  obtain ⟨filter, sort, hwants⟩ := exists_wants hcriteria
                  exact ⟨i, t, setup, filter, sort, client, hwords, htask, hsetup, hwants, hconnect⟩

/-- Criteria that cannot be read, or are refused, end a search before anything is sent. -/
theorem perform_of_unusable {t : SearchTask} (htask : i.task = .search t) (hlatest : t.latest = false)
    (h : (∃ fault, readCriteria w t.source = .error fault) ∨
      ∃ setup x fault, w.setup i.config = .ok setup ∧ readCriteria w t.source = .ok x ∧
        setup.configuration.compiler.compile x = .error fault) :
    ∃ fault, perform w i = .ofExcept (.error fault) := by
  rw [perform_search htask]
  rcases h with ⟨fault, hread⟩ | ⟨setup, x, fault, hsetup, hread, hcompile⟩
  · cases hsetup : w.setup i.config with
    | error fault => exact ⟨fault, rfl⟩
    | ok setup =>
        rw [Script.ofExcept_ok_bind, searchTask_of_refused (searchCriteria_of_unread hlatest hread)]
        exact ⟨fault, rfl⟩
  · rw [hsetup, Script.ofExcept_ok_bind, searchTask_of_refused (searchCriteria_of_refused hlatest hread hcompile)]
    exact ⟨_, rfl⟩

end

/-! ## The whole -/

/-- **A run that fails leaves nothing behind.** It has no output. What is sent at all is sent by a search that has got
    to its store, with its criteria compiled and its settings checked; and that is a ping, and one request for what is
    wanted if the ping is answered and the limit is positive. A search whose criteria cannot be read, or are refused,
    sends nothing and fails; and one that loses its store behind some records fails, and shows none of them. -/
theorem run_fails_safely (w : Surroundings) (words : List String) :
    ((run w words).exit ≠ 0 → (run w words).output = "") ∧
    ((run w words).sent ≠ [] → Nonempty (Arrival w words)) ∧
    (∀ a : Arrival w words, (run w words).sent = a.requests) ∧
    (∀ (a : Arrival w words) docs message, a.server.reply a.request = .interrupted docs message →
      (run w words).exit = 1 ∧ (run w words).output = "") ∧
    ∀ i t, Invocation.ofWords w.environment words = .ok i → i.task = .search t → t.latest = false →
      ((∃ fault, readCriteria w t.source = .error fault) ∨
        ∃ setup x fault, w.setup i.config = .ok setup ∧ readCriteria w t.source = .ok x ∧
          setup.configuration.compiler.compile x = .error fault) →
      (run w words).sent = [] ∧ (run w words).exit = 1 := by
  refine ⟨output_of_failed, ?_, ?_, ?_, ?_⟩
  · intro hsent
    cases hwords : Invocation.ofWords w.environment words with
    | error stop =>
        rw [run_of_stop hwords] at hsent
        exact absurd (stopped_fails_silently stop).2 hsent
    | ok i =>
        rw [run_of_invocation hwords, sent_finished] at hsent
        exact arrival_of_sent hwords hsent
  · intro a
    rw [run_of_invocation a.reads, sent_finished, a.sent_perform]
  · intro a docs message hreply
    obtain ⟨fault, hfault⟩ := a.fails_of_interrupted hreply
    have hexit : (run w words).exit = 1 := exit_of_error a.reads hfault
    refine ⟨hexit, output_of_failed ?_⟩
    rw [hexit]
    exact Nat.one_ne_zero
  · intro i t hwords htask hlatest hunusable
    obtain ⟨fault, hperform⟩ := perform_of_unusable htask hlatest hunusable
    constructor
    · rw [run_of_invocation hwords, sent_finished, hperform]
      rfl
    · have hfault : (perform w i).result = .error fault := by
        rw [hperform]
        rfl
      exact exit_of_error hwords hfault

/-- Two files with criteria, of which one names no known currency, and a store that is lost behind one record. -/
def lostStore : Surroundings where
  environment := []
  input := .ok ""
  isThere := fun _ => false
  file := fun name =>
    if name = "league.json" then .ok "\x7b\"league\": \"Standard\"\x7d"
    else if name = "coin.json" then .ok "\x7b\"currency_name\": \"Coin\"\x7d"
    else .error .missing
  driver := .plain
  server := fun _ => ⟨true, fun _ => .interrupted [[("name", .string "Tabula Rasa")]] "cursor lost"⟩

theorem run_fails_at_lost_store :
    (run lostStore ["search", "-i", "league.json"]).sent =
        [.ping, .find ⟨"stash", "posts", [("$and", .array [.document [("league", .string "Standard")]])], none, 20⟩] ∧
      (run lostStore ["search", "-i", "league.json"]).exit = 1 ∧
      (run lostStore ["search", "-i", "league.json"]).output = "" ∧
      (run lostStore ["search", "-i", "coin.json"]).sent = [] ∧
      (run lostStore ["search", "-i", "coin.json"]).output = "" := by
  obtain ⟨-, -, hsent, hlost, -⟩ := run_fails_safely lostStore ["search", "-i", "league.json"]
  obtain ⟨hsilent, -, -, -, hunusable⟩ := run_fails_safely lostStore ["search", "-i", "coin.json"]
  have hclient : ∃ client, Client.connect .plain {} = .ok client ∧ client.settings = {} := ⟨_, rfl, rfl⟩
  obtain ⟨client, hconnect, hsettings⟩ := hclient
  have hleague : readCriteria lostStore ⟨some "league.json", false⟩ = .ok { league := some "Standard" } := by
    decide +kernel
  have hcoin : readCriteria lostStore ⟨some "coin.json", false⟩ = .ok { currencyName := some "Coin" } := by
    decide +kernel
  have hcompiled : ({} : Setup).configuration.compiler.compile { league := some "Standard" } =
      .ok [.on "league" (.equals (.text "Standard"))] := by decide +kernel
  have hrefused : ({} : Setup).configuration.compiler.compile { currencyName := some "Coin" } =
      .error (.unknownCategory "currency" "Coin") := by decide +kernel
  let a : Arrival lostStore ["search", "-i", "league.json"] :=
    { invocation := ⟨none, .search ⟨⟨some "league.json", false⟩, none, false, none⟩⟩
      task := ⟨⟨some "league.json", false⟩, none, false, none⟩
      setup := {}
      filter := _
      sort := _
      client
      reads := by decide +kernel
      searches := rfl
      finds := rfl
      wants := .compiled rfl hleague hcompiled
      connects := hconnect }
  obtain ⟨hexit, houtput⟩ := hlost a _ _ rfl
  obtain ⟨hnothing, hfailed⟩ := hunusable ⟨none, .search ⟨⟨some "coin.json", false⟩, none, false, none⟩⟩ _
    (by decide +kernel) rfl rfl (.inr ⟨{}, _, _, rfl, hcoin, hrefused⟩)
  refine ⟨?_, hexit, houtput, hnothing, hsilent ?_⟩
  · have hrequest : a.request = ⟨"stash", "posts",
        [("$and", .array [.document [("league", .string "Standard")]])], none, 20⟩ := by
      show Find.mk client.settings.database client.settings.collection _ none client.settings.defaultLimit = _
      rw [hsettings]
      rfl
    have hpositive : 0 < a.request.limit := by
      rw [hrequest]
      decide
    rw [hsent a, Arrival.requests, if_pos ⟨rfl, hpositive⟩, hrequest]
  · rw [hfailed]
    exact Nat.one_ne_zero

end ItemQuery.Command
