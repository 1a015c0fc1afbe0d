import ItemQuery.Proofs.Store.Settings
import ItemQuery.Store.Search
import Mathlib.Data.List.Forall2

/-!
# `Proofs.Store.Search` — a search asks for what was compiled, or for nothing

A store takes a limit below zero for something else, and a query that was never compiled for all of its records. So
what matters about a search is what it does not send: criteria that are refused and limits that are not positive are
found out before the store hears of them, and after that there is one request, with the query, the order and the limit
of this search. Both ways to search end in the same request, so that this is proved of the request (`Search.Asks`)
and then read off for each of them.

A limit that nobody gives is the default of the client, and no client can be made with a default that is not positive,
whatever driver makes it.

## Contents
- `Shown`, `shown_stringifyId`, `Reply.result_eq_ok_iff`: the records of a store and those that are returned.
- `Search.Asks`, `Search.find_asks`: what comes of one request.
- `Client.connect_eq_ok_iff`, `Client.defaultLimit_pos`: what it takes to make a client, and its default limit.
- `Search.asks_what_is_compiled`: the whole.
-/

namespace ItemQuery.Store

/-! ## Records -/

/-- A record of the store and the record that is returned: the same keys in the same places with the same values, but
    for the id, which is text if there is one. -/
structure Shown (d d' : Document) : Prop where
  entries : List.Forall₂ (fun e e' => e'.1 = e.1 ∧ (e.1 ≠ "_id" → e'.2 = e.2)) d d'
  id : ∀ v, d'.lookup "_id" = some v → ∃ s, v = .string s

/-- Setting a key that is there changes the value under it, and nothing else. -/
theorem forall₂_set {k : String} {v old : Bson} {d : Document} (h : d.lookup k = some old) :
    List.Forall₂ (fun e e' => e'.1 = e.1 ∧ (e.1 ≠ k → e'.2 = e.2)) d (Assoc.set k v d) := by
  induction d with
  | nil => exact nomatch h
  | cons e d ih =>
      obtain ⟨a, b⟩ := e
      rw [Assoc.lookup_cons] at h
      rw [Assoc.set_cons]
      by_cases ha : a = k
      · rw [if_pos ha]
        refine .cons ⟨ha.symm, fun hne => absurd ha hne⟩ ?_
        exact List.forall₂_same.mpr fun e _ => ⟨rfl, fun _ => rfl⟩
      · rw [if_neg (Ne.symm ha)] at h
        rw [if_neg ha]
        exact .cons ⟨rfl, fun _ => rfl⟩ (ih h)

theorem shown_set {d : Document} {old : Bson} (h : d.lookup "_id" = some old) (s : String) :
    Shown d (Assoc.set "_id" (.string s) d) where
  entries := forall₂_set h
  id v hv := by
    rw [Assoc.lookup_set, if_pos rfl] at hv
    exact ⟨s, (Option.some.inj hv).symm⟩

/-- A record whose id is text already, or missing, is returned as it is. -/
theorem shown_self {d : Document} (h : ∀ v, d.lookup "_id" = some v → ∃ s, v = .string s) : Shown d d where
  entries := List.forall₂_same.mpr fun _ _ => ⟨rfl, fun _ => rfl⟩
  id := h

/-- **What is returned for a record** shows it. -/
theorem shown_stringifyId (d : Document) : Shown d (stringifyId d) := by
  unfold stringifyId
  split
  · rename_i hnone
    refine shown_self fun v hv => ?_
    rw [hnone] at hv
    exact nomatch hv
  · rename_i s hstring
    refine shown_self fun v hv => ?_
    rw [hstring] at hv
    exact ⟨s, (Option.some.inj hv).symm⟩
  · rename_i hid
    exact shown_set hid _
  · rename_i hother
    exact shown_set hother _

theorem forall₂_shown_map (found : List Document) : List.Forall₂ Shown found (found.map stringifyId) := by
  rw [List.forall₂_map_right_iff, List.forall₂_same]
  exact fun d _ => shown_stringifyId d

/-- A reply leads to records only if it is one of records. -/
theorem Reply.result_eq_ok_iff {r : Reply} {docs : List Document} :
    r.result = .ok docs ↔ ∃ found, r = .records found ∧ docs = found.map stringifyId := by
  cases r with
  | refused message => simp [result]
  | records found => simp [result, eq_comm]
  | interrupted found message => simp [result]

/-- Whatever else a reply leads to is an error of the store. -/
theorem Reply.driver_of_error {r : Reply} {fault : StoreFault} (h : r.result = .error fault) :
    ∃ message, fault = .driver message := by
  cases r with
  | refused message => exact ⟨message, (Except.error.inj h).symm⟩
  | records found => exact nomatch h
  | interrupted found message => exact ⟨message, (Except.error.inj h).symm⟩

/-! ## One request -/

namespace Search

variable {s : Search} {server : Server} {filter : Document} {sort : Option Document} {limit : Option Int64}

/-- The limit of a search: the one that is given, else the default. -/
def effectiveLimit (s : Search) (limit : Option Int64) : Int64 := limit.getD s.defaultLimit

/-- The request of a search. -/
def request (s : Search) (filter : Document) (sort : Option Document) (limit : Option Int64) : Find where
  database := s.database
  collection := s.collection
  filter
  sort
  limit := s.effectiveLimit limit

/-- **What comes of asking a store** with a filter, an order and a limit. Nothing is sent if the limit is not positive.
    Else one request is, and its records come back as they are shown, all of them and in their order; nothing comes
    back if the store did not answer with all of its records. -/
structure Asks (s : Search) (server : Server) (filter : Document) (sort : Option Document) (limit : Option Int64)
    (answer : Answer (List Document)) : Prop where
  refused : ¬ 0 < s.effectiveLimit limit →
    answer = ⟨[], .error (.query ("limit must be positive, got " ++ (s.effectiveLimit limit).toInt.repr))⟩
  sent : 0 < s.effectiveLimit limit → answer.sent = [s.request filter sort limit]
  records : 0 < s.effectiveLimit limit → ∀ found, server.reply (s.request filter sort limit) = .records found →
    ∃ docs, answer.result = .ok docs
  shown : ∀ docs, answer.result = .ok docs →
    ∃ found, server.reply (s.request filter sort limit) = .records found ∧ List.Forall₂ Shown found docs
  unanswered : 0 < s.effectiveLimit limit → ∀ fault, answer.result = .error fault → ∃ message, fault = .driver message

theorem resolveLimit_of_pos (h : 0 < s.effectiveLimit limit) : s.resolveLimit limit = .ok (s.effectiveLimit limit) :=
  if_pos h

theorem resolveLimit_of_not_pos (h : ¬ 0 < s.effectiveLimit limit) :
    s.resolveLimit limit =
      .error (.query ("limit must be positive, got " ++ (s.effectiveLimit limit).toInt.repr)) :=
  if_neg h

/-- A request with a positive limit is sent, and the reply decides. -/
theorem find_of_pos (h : 0 < s.effectiveLimit limit) :
    s.find server filter sort limit =
      ⟨[s.request filter sort limit], (server.reply (s.request filter sort limit)).result⟩ := by
  rw [find, resolveLimit_of_pos h]
  rfl

theorem find_of_not_pos (h : ¬ 0 < s.effectiveLimit limit) :
    s.find server filter sort limit =
      ⟨[], .error (.query ("limit must be positive, got " ++ (s.effectiveLimit limit).toInt.repr))⟩ := by
  rw [find, resolveLimit_of_not_pos h]

/-- **The one place that asks the store**, whatever it is asked. -/
theorem find_asks : s.Asks server filter sort limit (s.find server filter sort limit) := by
  by_cases hlimit : 0 < s.effectiveLimit limit
  · rw [find_of_pos hlimit]
    constructor
    case refused => exact fun hnot => absurd hlimit hnot
    case sent => exact fun _ => rfl
    case records =>
      intro _ found hreply
      exact ⟨found.map stringifyId, Reply.result_eq_ok_iff.mpr ⟨found, hreply, rfl⟩⟩
    case shown =>
      intro docs hdocs
      obtain ⟨found, hreply, rfl⟩ := Reply.result_eq_ok_iff.mp hdocs
      exact ⟨found, hreply, forall₂_shown_map found⟩
    case unanswered =>
      intro _ fault hfault
      exact Reply.driver_of_error hfault
  · rw [find_of_not_pos hlimit]
    constructor
    case refused => exact fun _ => rfl
    case shown =>
      intro docs hdocs
      exact nomatch hdocs
    all_goals exact fun hpos => absurd hpos hlimit

theorem search_of_refused {x : Criteria} {fault : Fault} (h : s.compiler.compile x = .error fault) :
    s.search server x limit = ⟨[], .error (.filter fault)⟩ := by
  rw [search, query, h]

theorem search_of_compiled {x : Criteria} {ps : List Predicate} (h : s.compiler.compile x = .ok ps) :
    s.search server x limit = s.find server (Query.ofPredicates ps) none limit := by
  rw [search, query, h]

/-- Asking with a positive limit fails on what the store does only. -/
theorem Asks.ne_query {answer : Answer (List Document)} (h : s.Asks server filter sort limit answer)
    (hlimit : 0 < s.effectiveLimit limit) (message : String) : answer.result ≠ .error (.query message) := by
  intro hresult
  obtain ⟨message', hdriver⟩ := h.unanswered hlimit _ hresult
  exact nomatch hdriver

end Search

/-! ## Clients -/

/-- **What it takes to make a client**: settings that pass their checks, a connection string that the driver can use,
    and options that it accepts. -/
theorem Client.connect_eq_ok_iff {driver : Driver} {settings : Settings} {client : Client} :
    connect driver settings = .ok client ↔
      settings.validate = .ok () ∧ settings.connectionOptions driver = .ok client.options ∧
        driver.accept client.options = .ok () ∧ client.settings = settings := by
  obtain ⟨made, options⟩ := client
  unfold connect
  cases settings.validate with
  | error fault => simp [bind, Except.bind]
  | ok u =>
      cases settings.connectionOptions driver with
      | error fault => simp [bind, Except.bind]
      | ok found =>
          cases haccept : driver.accept found with
          | error reason =>
              simp only [bind, Except.bind, haccept, Except.mapError, reduceCtorEq, false_iff]
              rintro ⟨-, hfound, haccepted, -⟩
              rw [← Except.ok.inj hfound, haccept] at haccepted
              exact nomatch haccepted
          | ok u =>
              simp only [bind, Except.bind, haccept, Except.mapError, pure, Except.pure, Except.ok.injEq, mk.injEq]
              constructor
              · rintro ⟨rfl, rfl⟩
                exact ⟨trivial, rfl, haccept, rfl⟩
              · rintro ⟨-, rfl, -, rfl⟩
                exact ⟨rfl, rfl⟩

/-- **The default limit of a client** is positive. -/
theorem Client.defaultLimit_pos {driver : Driver} {settings : Settings} {client : Client}
    (h : connect driver settings = .ok client) : 0 < client.settings.defaultLimit := by
  obtain ⟨hvalid, -, -, hsettings⟩ := connect_eq_ok_iff.mp h
  rw [hsettings]
  exact (Settings.validate_eq_ok_iff.mp hvalid).2.2

/-! ## The whole -/

/-- **A search asks for what was compiled, or for nothing.** If the criteria are refused the search fails with the
    compiler's fault and sends nothing, whatever the limit. Else it asks for their query, in no order, and a search
    for the latest records asks for all of them, by the id from the greatest down. A search over a client that could be
    made never fails on the limit if none is given. -/
theorem Search.asks_what_is_compiled (s : Search) (server : Server) (limit : Option Int64) :
    (∀ x fault, s.compiler.compile x = .error fault → s.search server x limit = ⟨[], .error (.filter fault)⟩) ∧
    (∀ x ps, s.compiler.compile x = .ok ps →
      s.Asks server (Query.ofPredicates ps) none limit (s.search server x limit)) ∧
    s.Asks server [] (some [("_id", .int32 (-1))]) limit (s.latest server limit) ∧
    ∀ driver settings client compiler message, Client.connect driver settings = .ok client →
      (∀ x, ((ofClient client compiler).search server x none).result ≠ .error (.query message)) ∧
      ((ofClient client compiler).latest server none).result ≠ .error (.query message) := by
  refine ⟨fun x fault => search_of_refused, ?_, find_asks, ?_⟩
  · intro x ps hps
    rw [search_of_compiled hps]
    exact find_asks
  · intro driver settings client compiler message hclient
    have hlimit : 0 < (ofClient client compiler).effectiveLimit none := Client.defaultLimit_pos hclient
    constructor
    · intro x
      cases hcompile : (ofClient client compiler).compiler.compile x with
      | error fault =>
          rw [search_of_refused hcompile]
          exact fun h => nomatch h
      | ok ps =>
          rw [search_of_compiled hcompile]
          exact find_asks.ne_query hlimit message
    · exact find_asks.ne_query hlimit message

/-- Twelve records of a league, of a store that has one; with a limit below zero, and of a currency that nobody knows,
    there are none, and nothing is sent. -/
theorem Search.asks_for_twelve :
    let s : Search := { database := "stash", collection := "posts", compiler := {} }
    let server : Server := ⟨true, fun _ => .records [[("_id", .int32 7), ("name", .string "Tabula Rasa")]]⟩
    let league : Criteria := { league := some "Standard" }
    (s.search server league (some 12)).sent =
      [⟨"stash", "posts", [("$and", .array [.document [("league", .string "Standard")]])], none, 12⟩] ∧
    (∃ d, (s.search server league (some 12)).result = .ok [d] ∧
      Shown [("_id", .int32 7), ("name", .string "Tabula Rasa")] d) ∧
    s.search server league (some (-1)) = ⟨[], .error (.query "limit must be positive, got -1")⟩ ∧
    s.search server { currencyName := some "Shard" } (some (-1)) =
      ⟨[], .error (.filter (.unknownCategory "currency" "Shard"))⟩ ∧
    ∃ client, Client.connect .plain {} = .ok client ∧
      ∀ message, ((ofClient client {}).latest server none).result ≠ .error (.query message) := by
  intro s server league
  have hcompile : s.compiler.compile league = .ok [.on "league" (.equals (.text "Standard"))] := by decide +kernel
  have hrefused : s.compiler.compile { currencyName := some "Shard" } = .error (.unknownCategory "currency" "Shard") := by
    decide +kernel
  have hpositive : 0 < s.effectiveLimit (some 12) := by decide
  have htwelve := (asks_what_is_compiled s server (some 12)).2.1 league _ hcompile
  have hnegative := (asks_what_is_compiled s server (some (-1))).2.1 league _ hcompile
  refine ⟨htwelve.sent hpositive, ?_, hnegative.refused (by decide),
    (asks_what_is_compiled s server (some (-1))).1 _ _ hrefused, ?_⟩
  · obtain ⟨docs, hdocs⟩ := htwelve.records hpositive _ rfl
    obtain ⟨found, hfound, hshown⟩ := htwelve.shown docs hdocs
    rw [← Reply.records.inj hfound, List.forall₂_cons_left_iff] at hshown
    obtain ⟨d, rest, hd, hrest, rfl⟩ := hshown
    rw [List.forall₂_nil_left_iff.mp hrest] at hdocs
    exact ⟨d, hdocs, hd⟩
  · have hclient : ∃ client, Client.connect .plain {} = .ok client := ⟨_, rfl⟩
    obtain ⟨client, hclient⟩ := hclient
    refine ⟨client, hclient, fun message => ?_⟩
    exact ((asks_what_is_compiled s server none).2.2.2 .plain {} client {} message hclient).2

end ItemQuery.Store
