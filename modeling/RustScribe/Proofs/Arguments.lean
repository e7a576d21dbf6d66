import RustScribe.Script

namespace RustScribe

/-- The texts an item is given, those of its lists included. -/
def Item.arguments : Item → List String
  | .line text | .todo text | .fnDecl text | .comment text | .wireTypeError text => [text]
  | .header | .unimplemented | .assertWireType _ => []
  | .pubConst name type init => [name, type, init]
  | .lazyStaticFrom name type init => [name, type, init]
  | .lazyStatic first second | .unsafeImpl first second | .fieldValue first second
  | .fieldDecl first second | .pubFieldDecl first second | .armExpr first second =>
      [first, second]
  | .derive texts | .allow texts | .blockComment texts => texts

def Scope.arguments : Scope → List String
  | .indented | .commented | .unsafeExpr => []
  | .block first second | .lazyStaticWith first second | .implFor first second
  | .ifLet first second | .ifLetElse first second | .forLoop first second => [first, second]
  | .exprBlock text | .stmtBlock text | .implSelf text | .pubStruct text | .privStruct text
  | .pubEnum text | .pubTrait text | .privMod text | .pubMod text | .fnBlock _ text
  | .pubFn text | .privFn text | .whileLoop text | .ifThen text | .ifElse text
  | .matchStmt text | .matchExpr text | .arm text => [text]

namespace Script

/-- A condition that a script and all scripts inside it meet. -/
def Throughout (holds : Script → Prop) : Script → Prop
  | .seq first second => first.Throughout holds ∧ second.Throughout holds
  | .within up scope body => holds (.within up scope body) ∧ body.Throughout holds
  | .attempt body => holds (.attempt body) ∧ body.Throughout holds
  | .afresh margin body => holds (.afresh margin body) ∧ body.Throughout holds
  | step => holds step

theorem Throughout.mono {holds other : Script → Prop}
    (implies : ∀ script, holds script → other script) {script : Script}
    (throughout : script.Throughout holds) : script.Throughout other := by
  induction script with
  | seq first second firstIH secondIH => exact ⟨firstIH throughout.1, secondIH throughout.2⟩
  | within up scope body ih => exact ⟨implies _ throughout.1, ih throughout.2⟩
  | attempt body ih => exact ⟨implies _ throughout.1, ih throughout.2⟩
  | afresh margin body ih => exact ⟨implies _ throughout.1, ih throughout.2⟩
  | skip | emit up item | showMargin up | raise fault | close => exact implies _ throughout

theorem throughout_ofList {holds : Script → Prop} (idle : holds .skip) (steps : List Script) :
    (ofList steps).Throughout holds ↔ ∀ step ∈ steps, step.Throughout holds := by
  induction steps with
  | nil => simpa [ofList, Throughout] using idle
  | cons step rest ih => simp [ofList, Throughout, ih]

end Script

end RustScribe
