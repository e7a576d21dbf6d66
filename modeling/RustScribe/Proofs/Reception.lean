import RustScribe.Proofs.Listing

namespace RustScribe

/-- The lines of a script, and the fault that ends them, if one does. -/
structure Listing where
  lines : List Placed := []
  ending : Option Fault := none
  deriving Repr, DecidableEq

/-- The lines of steps, up to the first fault raised among them. -/
def Listing.ofSteps : List Step → Listing
  | [] => {}
  | .line placed :: rest => { ofSteps rest with lines := placed :: (ofSteps rest).lines }
  | .raise fault :: _ => { ending := some fault }
  | .note _ :: rest | .showMargin _ :: rest | .close :: rest => ofSteps rest

def Script.listing (script : Script) (margin : Margin) : Listing :=
  .ofSteps (script.steps (.root { origin := margin }))

/-- What a sink makes of lines offered to it in order: it stops at the first that it
refuses, and never sees the others. -/
structure Reception where
  accepted : List Placed := []
  refused : Option (Placed × Fault) := none
  untried : List Placed := []
  sink : Sink
  deriving Repr, DecidableEq

def Sink.receive : Sink → List Placed → Reception
  | sink, [] => { sink }
  | sink, placed :: rest =>
      match sink.refusal? placed.text with
      | some fault =>
          { refused := some (placed, fault), untried := rest, sink := sink.offer placed.text }
      | none =>
          let later := (sink.offer placed.text).receive rest
          { later with accepted := placed :: later.accepted }

namespace Reception

/-- The lines that reach the sink: the accepted ones, then the refused one. -/
def offered (reception : Reception) : List Placed :=
  reception.accepted ++ (reception.refused.map Prod.fst).toList

/-- How a script ends: by the refusal, or else as its listing does. -/
def failure (reception : Reception) (ending : Option Fault) : Option Failure :=
  match reception.refused with
  | some (placed, fault) => some (placed.failure fault)
  | none => ending.map Failure.fault

end Reception

namespace Sink

variable {sink : Sink} {placed : Placed} {fault : Fault}

theorem receive_of_accepted (rest : List Placed) (accepted : sink.refusal? placed.text = none) :
    sink.receive (placed :: rest) =
      { (sink.offer placed.text).receive rest with
        accepted := placed :: ((sink.offer placed.text).receive rest).accepted } := by
  simp only [receive, accepted]

theorem receive_of_refused (rest : List Placed)
    (refused : sink.refusal? placed.text = some fault) :
    sink.receive (placed :: rest) =
      { refused := some (placed, fault), untried := rest, sink := sink.offer placed.text } := by
  simp only [receive, refused]

theorem offered_append_untried (sink : Sink) (lines : List Placed) :
    (sink.receive lines).offered ++ (sink.receive lines).untried = lines := by
  induction lines generalizing sink with
  | nil => rfl
  | cons placed rest ih =>
      cases answer : sink.refusal? placed.text with
      | some fault => simp only [receive_of_refused rest answer, Reception.offered]; rfl
      | none =>
          have later := ih (sink.offer placed.text)
          simp only [Reception.offered] at later
          simp only [receive_of_accepted rest answer, Reception.offered, List.cons_append, later]

theorem untried_of_unrefused (sink : Sink) (lines : List Placed)
    (unrefused : (sink.receive lines).refused = none) : (sink.receive lines).untried = [] := by
  induction lines generalizing sink with
  | nil => rfl
  | cons placed rest ih =>
      cases answer : sink.refusal? placed.text with
      | some fault => simp [receive_of_refused rest answer] at unrefused
      | none =>
          simp only [receive_of_accepted rest answer] at unrefused ⊢
          exact ih _ unrefused

/-- No text is refused, whatever was offered before it. -/
def TakesAll (sink : Sink) : Prop :=
  ∀ (earlier : List String) (text : String), (earlier.foldl offer sink).refusal? text = none

theorem foldl_offer_policy (sink : Sink) (texts : List String) :
    (texts.foldl offer sink).policy = sink.policy := by
  induction texts generalizing sink with
  | nil => rfl
  | cons text rest ih => rw [List.foldl_cons, ih, offer_policy]

theorem foldl_offer_closed (sink : Sink) (texts : List String) :
    (texts.foldl offer sink).closed = sink.closed := by
  induction texts generalizing sink with
  | nil => rfl
  | cons text rest ih => rw [List.foldl_cons, ih, offer_closed]

theorem takesAll_of_memory (memory : sink.policy = .memory) (isOpen : sink.closed = false) :
    sink.TakesAll := by
  intro earlier text
  simp [refusal?, foldl_offer_policy, foldl_offer_closed, memory, isOpen]

theorem TakesAll.accepted (takesAll : sink.TakesAll) (lines : List Placed) :
    (sink.receive lines).accepted = lines := by
  induction lines generalizing sink with
  | nil => rfl
  | cons placed rest ih =>
      have taken : sink.refusal? placed.text = none := takesAll [] placed.text
      have later : (sink.offer placed.text).TakesAll :=
        fun earlier => takesAll (placed.text :: earlier)
      rw [receive_of_accepted rest taken, ih later]

theorem accepted_of_openMemory (lines : List Placed)
    (memory : sink.policy = .memory) (isOpen : sink.closed = false) :
    (sink.receive lines).accepted = lines :=
  (takesAll_of_memory memory isOpen).accepted lines

theorem accepted_prefix (sink : Sink) (lines : List Placed) :
    (sink.receive lines).accepted <+: lines := by
  refine ⟨((sink.receive lines).refused.map Prod.fst).toList ++ (sink.receive lines).untried, ?_⟩
  rw [← List.append_assoc]
  exact sink.offered_append_untried lines

end Sink

/-- An outcome is what a sink makes of a listing. -/
structure Outcome.Follows (outcome : Outcome) (listing : Listing) (reception : Reception) :
    Prop where
  asked : outcome.asked = reception.offered.map Placed.request
  offered : outcome.offered = reception.offered.map Placed.text
  written : outcome.written = reception.accepted.map Placed.text
  sink : outcome.sink = reception.sink
  failure : outcome.failure = reception.failure listing.ending

namespace Outcome.Follows

variable {sink : Sink} {listing : Listing} {later : Action}

theorem after_record {event : Event} {reception : Reception}
    (unoffered : Moment.offered? (.event event) = none)
    (unwritten : Moment.written? (.event event) = none)
    (follows : (later sink).Follows listing reception) :
    ((Action.record event).andThen later sink).Follows listing reception := by
  obtain ⟨asked, offered, written, after, failure⟩ := follows
  simp only [Action.andThen, Action.record]
  constructor
  · simpa [Outcome.asked, List.filterMap_cons, Moment.asked?] using asked
  · simpa [Outcome.offered, List.filterMap_cons, unoffered] using offered
  · simpa [Outcome.written, List.filterMap_cons, unwritten] using written
  · exact after
  · exact failure

variable {placed : Placed}

theorem after_accepted (accepted : sink.refusal? placed.text = none)
    (follows : (later (sink.offer placed.text)).Follows listing
      ((sink.offer placed.text).receive listing.lines)) :
    ((Action.writeLine placed.margin placed.line).andThen later sink).Follows
      { listing with lines := placed :: listing.lines }
      (sink.receive (placed :: listing.lines)) := by
  obtain ⟨asked, offered, written, after, failure⟩ := follows
  have wrote := Action.writeLine_of_accepted accepted
  simp only [← Placed.text.eq_def] at wrote
  rw [Sink.receive_of_accepted _ accepted]
  simp only [Action.andThen, wrote]
  constructor
  · simpa [Outcome.asked, List.filterMap_cons, Moment.asked?, Reception.offered, Placed.request]
      using asked
  · simpa [Outcome.offered, List.filterMap_cons, Moment.offered?, Reception.offered] using offered
  · simpa [Outcome.written, List.filterMap_cons, Moment.written?] using written
  · exact after
  · exact failure

theorem of_refused {fault : Fault} (refused : sink.refusal? placed.text = some fault) :
    ((Action.writeLine placed.margin placed.line).andThen later sink).Follows
      { listing with lines := placed :: listing.lines }
      (sink.receive (placed :: listing.lines)) := by
  rw [Sink.receive_of_refused _ refused]
  cases kind : fault.isRefusal with
  | true =>
      simp only [Action.andThen, Action.writeLine_of_refused refused kind]
      constructor
      · rfl
      · rfl
      · rfl
      · rfl
      · simp [Reception.failure, Placed.failure, kind]
  | false =>
      simp only [Action.andThen, Action.writeLine_of_defect refused kind]
      constructor
      · rfl
      · rfl
      · rfl
      · rfl
      · simp [Reception.failure, Placed.failure, kind]

end Outcome.Follows

theorem performAll_follows (steps : List Step) (sink : Sink) (isOpen : Step.close ∉ steps) :
    (performAll steps sink).Follows (.ofSteps steps)
      (sink.receive (Listing.ofSteps steps).lines) := by
  induction steps generalizing sink with
  | nil => constructor <;> rfl
  | cons step rest ih =>
      have remaining : Step.close ∉ rest := fun member => isOpen (List.mem_cons_of_mem _ member)
      rw [performAll_cons]
      cases step with
      | note message => exact (ih sink remaining).after_record rfl rfl
      | showMargin place => exact (ih sink remaining).after_record rfl rfl
      | raise fault => constructor <;> rfl
      | close => exact absurd List.mem_cons_self isOpen
      | line placed =>
          cases answer : sink.refusal? placed.text with
          | none => exact (ih (sink.offer placed.text) remaining).after_accepted answer
          | some fault => exact .of_refused answer

namespace Script

theorem Straight.unguarded {script : Script} (straight : script.Straight) : script.Unguarded := by
  refine straight.mono fun step allowed => ?_
  cases step with
  | attempt body => exact allowed
  | _ => trivial

theorem Straight.close_not_mem_steps {script : Script} (straight : script.Straight)
    (nest : Nest Place) : Step.close ∉ script.steps nest := by
  have lines (place : Place) (lines : List Line) : Step.close ∉ Line.steps place lines := by
    simp [Line.steps]
  induction script generalizing nest with
  | skip => simp [steps]
  | seq first second firstIH secondIH =>
      simp only [steps, List.mem_append, not_or]
      exact ⟨firstIH straight.1 nest, secondIH straight.2 nest⟩
  | emit up item => simp [steps, Item.steps, lines]
  | within up scope body ih =>
      simp only [steps, List.mem_append, not_or]
      exact ⟨lines _ _, ih straight.2 _, lines _ _⟩
  | showMargin up => simp [steps]
  | raise fault => simp [steps]
  | attempt body ih => exact absurd straight.1 id
  | afresh margin body ih => exact ih straight.2 _
  | close => exact absurd straight id

theorem Straight.run_follows {script : Script} (straight : script.Straight) (margin : Margin)
    (sink : Sink) :
    (script.run (.root margin) sink).Follows (script.listing margin)
      (sink.receive (script.listing margin).lines) := by
  rw [run_root_eq_performAll straight.unguarded]
  exact performAll_follows _ sink (straight.close_not_mem_steps _)

/-- The listing of a straight script is found without a sink. On every sink the run offers its lines
in order, up to the first that is refused, and ends by the refusal or else as the listing does. -/
theorem straight_run_offers_listing {script : Script} (straight : script.Straight)
    (margin : Margin) :
    let listing := script.listing margin
    ∀ sink : Sink,
      let outcome := script.run (.root margin) sink
      let reception := sink.receive listing.lines
      outcome.asked = reception.offered.map Placed.request ∧
      outcome.offered = reception.offered.map Placed.text ∧
      outcome.written = reception.accepted.map Placed.text ∧
      reception.offered ++ reception.untried = listing.lines ∧
      (reception.refused = none → reception.untried = []) ∧
      outcome.sink = reception.sink ∧
      outcome.failure = reception.failure listing.ending ∧
      ∀ memory : Sink, memory.policy = .memory → memory.closed = false →
        (script.run (.root margin) memory).written = listing.lines.map Placed.text ∧
          outcome.written <+: (script.run (.root margin) memory).written := by
  intro listing sink outcome reception
  have follows := straight.run_follows margin sink
  refine ⟨follows.asked, follows.offered, follows.written, sink.offered_append_untried _,
    sink.untried_of_unrefused _, follows.sink, follows.failure, ?_⟩
  intro memory policy isOpen
  have whole : (script.run (.root margin) memory).written = listing.lines.map Placed.text := by
    rw [(straight.run_follows margin memory).written, Sink.accepted_of_openMemory _ policy isOpen]
  refine ⟨whole, ?_⟩
  rw [whole, show outcome.written = reception.accepted.map Placed.text from follows.written]
  exact (sink.accepted_prefix listing.lines).map Placed.text

/-- A pipe that breaks at the third line leaves the function unclosed. -/
theorem straight_run_offers_listing_to_pipe :
    let script := Script.within 0 (.pubFn "f()")
      (.seq (.emit 0 (.line "x")) (.within 0 .commented (.emit 1 (.comment ""))))
    let broken := Fault.raised .brokenPipe (some 32) "Broken pipe"
    let sink : Sink := { policy := .failing [3] none broken }
    script.Straight ∧
      (script.run (.root "") sink).offered = ["pub fn f() \x7b\n", "    x\n", "    //\n"] ∧
      (script.run (.root "") sink).written = ["pub fn f() \x7b\n", "    x\n"] ∧
      (script.run (.root "") sink).failure = some (.refusedLine "//" broken) := by
  intro script broken sink
  have straight : script.Straight := by simp [script, Straight, Throughout]
  obtain ⟨_, offered, written, _, _, _, failure, _⟩ := straight_run_offers_listing straight "" sink
  exact ⟨straight, offered.trans (by decide +kernel), written.trans (by decide +kernel),
    failure.trans (by decide +kernel)⟩

end Script

end RustScribe
