import RustScribe.Fault

namespace RustScribe

/-! Where generated text goes. A sink decides about each text offered to it, keeps
the accepted ones in order, and forgets a refused one except that it counts. -/

namespace Sink

/-- What a sink refuses, besides every text once it is closed. -/
inductive Policy where
  | memory
  | encoded (charset : Text.Charset)
  /-- Raises a fault at the listed offers, and from some offer on. -/
  | failing (offers : List Nat) (onward : Option Nat) (fault : Fault)
  | limited (capacity : Nat)
  deriving Repr, DecidableEq

end Sink

structure Sink where
  policy : Sink.Policy
  closed : Bool := false
  /-- How many texts were offered, refused ones included. -/
  offers : Nat := 0
  content : String := ""
  deriving Repr, DecidableEq

namespace Sink

def close (sink : Sink) : Sink :=
  { sink with closed := true }

/-- Offers count from one. -/
def failsAt (offers : List Nat) (onward : Option Nat) (offer : Nat) : Bool :=
  offers.contains offer || onward.any (· ≤ offer)

/-- The fault with which the sink answers the next text, if it refuses it. A
failing or full sink answers so even when closed; an encoded one is asked about
the encoding only while it is open. -/
def refusal? (sink : Sink) (text : String) : Option Fault :=
  let whenClosed (fault : Fault) : Option Fault := if sink.closed then some fault else none
  match sink.policy with
  | .memory => whenClosed .closedBuffer
  | .encoded charset =>
      if sink.closed then some .closedStream
      else (charset.badRun? text.toList).map (.unencodable charset)
  | .failing offers onward fault =>
      if failsAt offers onward (sink.offers + 1) then some fault
      else whenClosed .closedBuffer
  | .limited capacity =>
      if capacity < sink.content.length + text.length then some .noSpace
      else whenClosed .closedBuffer

def offer (sink : Sink) (text : String) : Sink :=
  match sink.refusal? text with
  | none => { sink with offers := sink.offers + 1, content := sink.content ++ text }
  | some _ => { sink with offers := sink.offers + 1 }

theorem offer_of_accepted {sink : Sink} {text : String} (accepted : sink.refusal? text = none) :
    sink.offer text =
      { sink with offers := sink.offers + 1, content := sink.content ++ text } := by
  simp only [offer, accepted]

theorem offer_of_refused {sink : Sink} {text : String} {fault : Fault}
    (refused : sink.refusal? text = some fault) :
    sink.offer text = { sink with offers := sink.offers + 1 } := by
  simp only [offer, refused]

@[simp] theorem offer_policy (sink : Sink) (text : String) :
    (sink.offer text).policy = sink.policy := by
  unfold offer
  split <;> rfl

@[simp] theorem offer_closed (sink : Sink) (text : String) :
    (sink.offer text).closed = sink.closed := by
  unfold offer
  split <;> rfl

@[simp] theorem offer_offers (sink : Sink) (text : String) :
    (sink.offer text).offers = sink.offers + 1 := by
  unfold offer
  split <;> rfl

theorem exists_refusal_of_closed {sink : Sink} (closed : sink.closed = true) (text : String) :
    ∃ fault, sink.refusal? text = some fault := by
  unfold refusal?
  cases sink.policy with
  | memory => simp [closed]
  | encoded charset => simp [closed]
  | failing offers onward fault => simp only [closed]; split <;> exact ⟨_, rfl⟩
  | limited capacity => simp only [closed]; split <;> exact ⟨_, rfl⟩

end Sink

end RustScribe
