import Mathlib.Data.Int.Notation
import Moebius.LineScanner

/-!
Messages over the agent's socket.

A message is an object in JSON, on a line of its own. Either end of a connection reads with a
scanner whose buffer starts at 64 KB and grows to 1 MB.
-/

namespace Moebius.Ipc

open List Scanner

structure Request where
  id : String
  method : String
  params : Option (List UInt8) := none
  token : String := ""

structure RpcError where
  code : ℤ
  message : String

structure Response where
  id : String
  result : Option (List UInt8) := none
  error : Option RpcError := none

/-- The encoding of messages: what stands between the braces of the object, if the message can be
encoded. There is no newline in it, and decoding inverts it. -/
structure Json (α : Type) where
  members : α → Option (List UInt8)
  unmarshal : List UInt8 → Option α
  newline_notMem : ∀ a body, members a = some body → 10 ∉ body
  unmarshal_object : ∀ a body, members a = some body → unmarshal (123 :: body ++ [125]) = some a

inductive ReadError
  | eof
  | scan (e : ScanError)
  | unmarshal

def lines : LineFormat UInt8 := { newline := 10, cr := 13, maxTokenSize := 1024 * 1024 }

section

variable {α : Type} (J : Json α) (a : α)

def marshal : Option (List UInt8) := (J.members a).map fun body => 123 :: body ++ [125]

/-- The answers of `n` calls. -/
def reads (read : Scanner UInt8 → Except ReadError α × Scanner UInt8) :
    ℕ → Scanner UInt8 → List (Except ReadError α)
  | 0, _ => []
  | n + 1, s => (read s).1 :: reads read n (read s).2

/-- The encoding and its newline fit into the buffer. -/
def Fits : Prop := ∃ data, marshal J a = some data ∧ data.length + 1 ≤ 1024 * 1024

variable {J a} {s : Scanner UInt8}

end

end Moebius.Ipc
