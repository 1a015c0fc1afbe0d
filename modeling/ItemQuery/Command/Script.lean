import ItemQuery.Command.Fault
import ItemQuery.Store.Search

/-!
# `Command.Script` — what a command does, in order

A command writes and sends as it goes along, and what it did before a fault stays done: a line that was printed cannot
be taken back. So a part of a command is the list of its acts together with what it ends with, and one part after
another keeps the acts of the first whether or not the second comes to act.

## Contents
- `Act`: one thing that is done.
- `Script`: acts and a result; `Script.print`, `Script.note`, `Script.ofExcept`, `Script.ping`, `Script.ask`.
- `Script.output`, `Script.notes`, `Script.sent`: the acts by where they go.
-/

namespace ItemQuery.Command

open Store (Answer Request Server)

/-- One thing that a command does. -/
inductive Act where
  /-- Write a text to standard output. -/
  | print (text : String)
  /-- Write a text to standard error. -/
  | note (text : String)
  /-- Send a request to the store. -/
  | send (r : Request)

namespace Act

/-- What an act writes to standard output. -/
def printed : Act → String
  | print text => text
  | _ => ""

/-- What an act writes to standard error. -/
def noted : Act → String
  | note text => text
  | _ => ""

/-- What an act sends. -/
def request? : Act → Option Request
  | send r => some r
  | _ => none

end Act

/-- A part of a command: what it does, in order, and what it ends with. -/
structure Script (α : Type) where
  acts : List Act
  result : Except CommandFault α

namespace Script

variable {α β : Type}

/-- One part after another. After a fault there is no other. -/
def bind (x : Script α) (f : α → Script β) : Script β :=
  match x.result with
  | .ok a => ⟨x.acts ++ (f a).acts, (f a).result⟩
  | .error fault => ⟨x.acts, .error fault⟩

instance : Monad Script where
  pure a := ⟨[], .ok a⟩
  bind := bind

/-! ## Single acts -/

/-- Write a text to standard output. -/
def print (text : String) : Script Unit := ⟨[.print text], .ok ()⟩

/-- Write a text to standard error. -/
def note (text : String) : Script Unit := ⟨[.note text], .ok ()⟩

/-- Go on with a result that takes nothing to have. -/
def ofExcept (r : Except CommandFault α) : Script α := ⟨[], r⟩

/-- Ask whether a store is there. -/
def ping (server : Server) : Script Bool := ⟨[.send .ping], .ok server.answersPing⟩

/-- Send the requests of an answer, and go on with its result. -/
def ask (a : Answer α) : Script α :=
  ⟨a.sent.map fun f => .send (.find f), a.result.mapError .ofStoreFault⟩

/-! ## What was done -/

/-- All that is written to standard output. -/
def output (s : Script α) : String := String.join (s.acts.map Act.printed)

/-- All that is written to standard error. -/
def notes (s : Script α) : String := String.join (s.acts.map Act.noted)

/-- All that is sent to the store. -/
def sent (s : Script α) : List Request := s.acts.filterMap Act.request?

/-! ## One part after another -/

theorem bind_of_ok {x : Script α} {a : α} (h : x.result = .ok a) (f : α → Script β) :
    x >>= f = ⟨x.acts ++ (f a).acts, (f a).result⟩ := by
  show bind x f = _
  rw [bind, h]

theorem bind_of_error {x : Script α} {fault : CommandFault} (h : x.result = .error fault) (f : α → Script β) :
    x >>= f = ⟨x.acts, .error fault⟩ := by
  show bind x f = _
  rw [bind, h]

theorem ofExcept_ok_bind (a : α) (f : α → Script β) : ofExcept (.ok a) >>= f = f a := rfl

theorem ofExcept_error_bind (fault : CommandFault) (f : α → Script β) :
    ofExcept (.error fault) >>= f = ofExcept (.error fault) := rfl

end Script

end ItemQuery.Command
