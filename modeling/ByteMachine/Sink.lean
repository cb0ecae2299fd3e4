/-!
# Sinks

A sink is where a program writes. Writing and flushing may fail with a reason, and either way the
sink may have changed, so both return the sink that comes after. Nothing else is asked of a sink.

`LineSink` keeps what it has taken. It may be open for a limited number of lines: then it takes
characters up to and including the last line end that it has room for, and refuses what is left of
that text and every non-empty text afterwards. The limit may fall into the middle of a text.
-/
namespace ByteMachine

/-- A destination of text. -/
class Sink (σ : Type) where
  /-- Writes a text. -/
  write : σ → String → Except String Unit × σ
  /-- Hands on what has been written. -/
  flush : σ → Except String Unit × σ

/-- The text up to and including the line end of the given number. -/
def takeLines : Nat → List Char → List Char
  | 0, _ => []
  | _ + 1, [] => []
  | n + 1, c :: cs => c :: takeLines (if c = '\n' then n else n + 1) cs

/-- The text behind the line end of the given number. -/
def dropLines : Nat → List Char → List Char
  | 0, cs => cs
  | _ + 1, [] => []
  | n + 1, c :: cs => dropLines (if c = '\n' then n else n + 1) cs

theorem takeLines_append_dropLines (n : Nat) (cs : List Char) :
    takeLines n cs ++ dropLines n cs = cs := by
  induction cs generalizing n with
  | nil => cases n <;> rfl
  | cons c cs ih => cases n <;> simp [takeLines, dropLines, ih]

/-- A sink that keeps its text. -/
structure LineSink where
  /-- What has been taken so far. -/
  text : String
  /-- The number of lines that are still accepted, if it is limited. -/
  room : Option Nat
  /-- Whether every flush fails. -/
  flushFails : Bool
  deriving DecidableEq, Repr

namespace LineSink

/-- An empty sink with the given settings. -/
def new (room : Option Nat) (flushFails : Bool) : LineSink where
  text := ""
  room := room
  flushFails := flushFails

/-- An empty sink that accepts everything. -/
def unlimited : LineSink := new none false

/-- Why a text is refused. -/
def fullReason : String := "sink is full"

/-- Why a flush fails. -/
def flushReason : String := "sink does not flush"

/-- Takes as much of a text as there is room for. -/
def write (k : LineSink) (text : String) : Except String Unit × LineSink :=
  match k.room with
  | none => (.ok (), { k with text := k.text ++ text })
  | some n =>
    let taken := takeLines n text.toList
    let k' := { k with
      text := k.text ++ String.ofList taken
      room := some (n - taken.count '\n') }
    (if dropLines n text.toList = [] then .ok () else .error fullReason, k')

/-- Fails if the sink is set to fail. -/
def flush (k : LineSink) : Except String Unit × LineSink :=
  (if k.flushFails then .error flushReason else .ok (), k)

instance : Sink LineSink where
  write := write
  flush := flush

@[simp] theorem write_unlimited (k : LineSink) (h : k.room = none) (text : String) :
    k.write text = (.ok (), { k with text := k.text ++ text }) := by
  simp [write, h]

@[simp] theorem snd_flush (k : LineSink) : k.flush.2 = k := rfl

end LineSink

end ByteMachine
