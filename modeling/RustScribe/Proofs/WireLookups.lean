import Mathlib.Logic.Function.Basic
import RustScribe.Proofs.ItemWrites
import RustScribe.Proofs.Messages
import RustScribe.Proofs.SessionBalance

namespace RustScribe

namespace Text

/-- The decimal digits of a number, without zeros in front. -/
structure IsNumeral (size : Nat) (digits : List Char) : Prop where
  written : digits ≠ []
  digit : ∀ char ∈ digits, char.isDigit = true
  shortest : digits.head? = some '0' → digits = ['0']
  value : Nat.ofDigitChars 10 digits 0 = size

/-- The decimal form of an integer: a numeral, behind a minus sign if it is negative. -/
inductive IsDecimal : Int → List Char → Prop
  | natural {size : Nat} {digits : List Char} (numeral : IsNumeral size digits) :
      IsDecimal size digits
  | negative {size : Nat} {digits : List Char} (numeral : IsNumeral size digits)
      (positive : 0 < size) : IsDecimal (-size) ('-' :: digits)

theorem toDigits_shortest {size : Nat} (zero : (Nat.toDigits 10 size).head? = some '0') :
    Nat.toDigits 10 size = ['0'] := by
  induction size using Nat.strongRecOn with
  | ind size ih =>
      rw [Nat.toDigits_eq_if (by decide)] at zero ⊢
      split at zero
      · next small =>
          rw [if_pos small]
          exact congrArg (fun char => [char]) (Option.some.inj zero)
      · next large =>
          -- The digits of a tenth of it start likewise, so this tenth is zero.
          rw [List.head?_append_of_ne_nil _ Nat.toDigits_ne_nil] at zero
          have tenth := ih (size / 10) (by omega) zero
          have value := @Nat.ofDigitChars_ten_toDigits (size / 10)
          rw [tenth] at value
          have none : 0 = size / 10 := value
          omega

theorem isNumeral_toDigits (size : Nat) : IsNumeral size (Nat.toDigits 10 size) where
  written := Nat.toDigits_ne_nil
  digit _ member := Nat.isDigit_of_mem_toDigits (by decide) (by decide) member
  shortest := toDigits_shortest
  value := Nat.ofDigitChars_ten_toDigits

theorem isDecimal_toString (number : Int) : IsDecimal number (toString number).toList := by
  have written : toString number = number.repr := rfl
  rw [written, Int.repr_eq_if]
  split
  · next natural =>
      have form := IsDecimal.natural (isNumeral_toDigits number.toNat)
      rw [Int.toNat_of_nonneg natural] at form
      rwa [Nat.toList_repr]
  · next negative =>
      have size : -((-number).toNat : Int) = number := by omega
      have form := IsDecimal.negative (isNumeral_toDigits (-number).toNat) (by omega)
      rw [size] at form
      rwa [String.toList_append, Nat.toList_repr]

theorem IsDecimal.number_unique {one other : Int} {chars : List Char} (first : IsDecimal one chars)
    (second : IsDecimal other chars) : one = other := by
  have unsigned {size : Nat} {digits : List Char} (numeral : IsNumeral size ('-' :: digits)) :
      False := by
    have digit := numeral.digit '-' List.mem_cons_self
    revert digit
    decide
  cases first with
  | natural numeral =>
      cases second with
      | natural otherNumeral => rw [← numeral.value, otherNumeral.value]
      | negative _ _ => exact (unsigned numeral).elim
  | negative numeral _ =>
      cases second with
      | natural otherNumeral => exact (unsigned otherNumeral).elim
      | negative otherNumeral _ => rw [← numeral.value, otherNumeral.value]

end Text

open Text

namespace WireType

/-- A lookup that finds the wire type with a field, which no two wire types share, and otherwise
gives a reason that holds what was looked up. -/
structure Inverts {Sought : Type} (lookup : Sought → Except Unknown WireType)
    (field : WireType → Sought) (reason : Sought → Unknown) : Prop where
  distinct : Function.Injective field
  found : ∀ sought wireType, lookup sought = .ok wireType ↔ field wireType = sought
  missing : ∀ sought unknown, lookup sought = .error unknown ↔
    (∀ wireType, field wireType ≠ sought) ∧ unknown = reason sought

section

variable {Sought : Type} {field : WireType → Sought}

theorem injective_of_all
    (distinct : ∀ one ∈ all, ∀ other ∈ all, field one = field other → one = other) :
    Function.Injective field :=
  fun one other => distinct one (mem_all one) other (mem_all other)

variable [BEq Sought] [LawfulBEq Sought] {lookup : Sought → Except Unknown WireType}
  {reason : Sought → Unknown}

theorem find?_eq_some_iff (distinct : Function.Injective field) {sought : Sought}
    {wireType : WireType} :
    (all.find? fun wireType => field wireType == sought) = some wireType ↔
      field wireType = sought := by
  constructor
  · intro found
    simpa using List.find?_some found
  · rintro rfl
    cases search : all.find? fun other => field other == field wireType with
    | none =>
        have absent := List.find?_eq_none.mp search wireType (mem_all wireType)
        simp at absent
    | some other =>
        have same : field other = field wireType := by simpa using List.find?_some search
        rw [distinct same]

theorem inverts_of_find (distinct : Function.Injective field)
    (search : ∀ sought, lookup sought =
      match all.find? fun wireType => field wireType == sought with
      | some wireType => .ok wireType
      | none => .error (reason sought)) : Inverts lookup field reason where
  distinct := distinct
  found sought wireType := by
    rw [search, ← find?_eq_some_iff distinct]
    cases all.find? fun wireType => field wireType == sought <;> simp
  missing sought unknown := by
    have absent : (∀ wireType, field wireType ≠ sought) ↔
        (all.find? fun wireType => field wireType == sought) = none := by
      simp [Option.eq_none_iff_forall_ne_some, find?_eq_some_iff distinct]
    rw [search, absent]
    cases all.find? fun wireType => field wireType == sought <;> simp [eq_comm]

end

theorem ofNumber_inverts : Inverts ofNumber number .number :=
  inverts_of_find (injective_of_all (by decide)) fun _ => rfl

theorem ofVariant_inverts : Inverts ofVariant variant .variant :=
  inverts_of_find (injective_of_all (by decide)) fun _ => rfl

theorem ofName_inverts : Inverts ofName name .name :=
  inverts_of_find (injective_of_all (by decide)) fun _ => rfl

theorem toList_message_number (sought : Int) :
    (Unknown.number sought).message.toList =
      "unknown wire type number: ".toList ++ (toString sought).toList :=
  String.toList_append

theorem message_number_inj {one other : Int}
    (same : (Unknown.number one).message = (Unknown.number other).message) : one = other := by
  have decimals := congrArg String.toList same
  rw [toList_message_number, toList_message_number] at decimals
  have second := isDecimal_toString other
  rw [← List.append_cancel_left decimals] at second
  exact (isDecimal_toString one).number_unique second

theorem variant_unspaced (wireType : WireType) :
    ∀ char ∈ wireType.variant.toList, (char != ' ') = true :=
  List.all_eq_true.mp (by cases wireType <;> decide)

/-- What is written of a check starts, if it is anything, with the variant and a space. -/
theorem exists_check_text {wireType : WireType} {margin : Margin} {sink : Sink}
    (some : ((Item.assertWireType wireType).write margin sink).text ≠ "") :
    ∃ rest, ((Item.assertWireType wireType).write margin sink).text.toList =
      (margin ++ "if wire_type != ::protobuf::wire_format::").toList ++
        (wireType.variant.toList ++ ' ' :: rest) := by
  have start := Item.written_prefix margin (.assertWireType wireType) sink
  rw [Outcome.text] at some ⊢
  cases written : ((Item.assertWireType wireType).write margin sink).written with
  | nil => exact absurd (by rw [written]; rfl) some
  | cons first more =>
      rw [written] at start
      obtain rfl : first = _ := (List.cons_prefix_cons.mp start).1
      refine ⟨['\x7b', '\n'] ++ (String.join more).toList, ?_⟩
      simp [Line.opening, Margin.indentBy, Margin.render_of_ne, String.append_assoc]

theorem check_text_ne_empty {sink : Sink} (takesAll : sink.TakesAll) (wireType : WireType)
    (margin : Margin) : ((Item.assertWireType wireType).write margin sink).text ≠ "" := by
  have written := (Item.write_of_takesAll takesAll margin (.assertWireType wireType)).1
  rw [Outcome.text, written]
  intro nothing
  have chars := congrArg String.toList nothing
  simp [Line.rendered, Item.lines, Line.opening, Margin.render_of_ne] at chars

theorem check_text_inj {one other : WireType} {margin : Margin} {sink otherSink : Sink}
    (some : ((Item.assertWireType one).write margin sink).text ≠ "")
    (same : ((Item.assertWireType other).write margin otherSink).text =
      ((Item.assertWireType one).write margin sink).text) : other = one := by
  obtain ⟨rest, text⟩ := exists_check_text some
  obtain ⟨otherRest, otherText⟩ := exists_check_text (same.trans_ne some)
  rw [same, text] at otherText
  have variants := congrArg (List.takeWhile (· != ' ')) (List.append_cancel_left otherText)
  rw [List.takeWhile_append_of_pos one.variant_unspaced,
    List.takeWhile_append_of_pos other.variant_unspaced] at variants
  have same : one.variant = other.variant := String.toList_injective (by simpa using variants)
  exact (ofVariant_inverts.distinct same).symm

end WireType

open WireType

/-- A number, a variant and a name find the one wire type that has it, or fail with a reason that
tells it from every other; and no two wire types share a text of their checks. -/
theorem wire_lookups_invert_fields :
    Inverts ofNumber number .number ∧ Inverts ofVariant variant .variant ∧
      Inverts ofName name .name ∧
      (∀ sought, ∃ decimal, IsDecimal sought decimal ∧
        (Unknown.number sought).message.toList = "unknown wire type number: ".toList ++ decimal) ∧
      (∀ one other, (Unknown.number one).message = (Unknown.number other).message → one = other) ∧
      (∀ sought, (Unknown.variant sought).message =
        Text.quoted sought ++ " is not a valid WireType" ∧
        (Unknown.name sought).message = Text.quoted sought) ∧
      TellsApart ofVariant ∧ TellsApart ofName ∧
      ∀ (margin : Margin) (sink otherSink : Sink) (one other : WireType),
        let text := ((Item.assertWireType one).write margin sink).text
        (sink.TakesAll → text ≠ "") ∧
          (text ≠ "" → ((Item.assertWireType other).write margin otherSink).text = text →
            other = one) := by
  refine ⟨ofNumber_inverts, ofVariant_inverts, ofName_inverts, fun sought => ?_,
    fun one other => message_number_inj, fun sought => ⟨rfl, rfl⟩, ofVariant_tellsApart,
    ofName_tellsApart, ?_⟩
  · exact ⟨_, isDecimal_toString sought, toList_message_number sought⟩
  · intro margin sink otherSink one other text
    exact ⟨fun takesAll => check_text_ne_empty takesAll one margin, check_text_inj⟩

/-- Numbers beyond any machine word, names in the wrong case, and the checks of two wire types
whose variants begin alike, cut short by a sink that fails at the second line. -/
theorem wire_lookups_invert_fields_beyond_words :
    let beyond : Int := 1000000000000000000000000000005
    let memory : Sink := { policy := .memory }
    let failing : Sink := { policy := .failing [2] none .noSpace }
    let check (wireType : WireType) (sink : Sink) :=
      ((Item.assertWireType wireType).write "\t" sink).text
    ofNumber 5 = .ok .fixed32 ∧ ofNumber beyond = .error (.number beyond) ∧
      (Unknown.number beyond).message ≠ (Unknown.number (-beyond)).message ∧
      ofName "FIXED32" = .ok .fixed32 ∧ ofName "Fixed32" = .error (.name "Fixed32") ∧
      (Unknown.name "Fixed32").message ≠ (Unknown.name "fixed32").message ∧
      check .fixed32 memory ≠ "" ∧
      check .fixed32 failing = "\tif wire_type != ::protobuf::wire_format::WireTypeFixed32 \x7b\n" ∧
      check .fixed64 failing ≠ check .fixed32 failing := by
  intro beyond memory failing check
  obtain ⟨numbers, -, names, -, told, -, -, apart, checks⟩ := wire_lookups_invert_fields
  have unknown (name : String) (unnamed : ∀ wireType ∈ all, wireType.name ≠ name) :
      ofName name = .error (.name name) :=
    (names.missing name _).mpr ⟨fun wireType => unnamed wireType (mem_all wireType), rfl⟩
  have capitalized := unknown "Fixed32" (by decide)
  have lowered := unknown "fixed32" (by decide)
  have cut : check .fixed32 failing =
      "\tif wire_type != ::protobuf::wire_format::WireTypeFixed32 \x7b\n" := by decide +kernel
  refine ⟨(numbers.found 5 .fixed32).mpr rfl, (numbers.missing beyond _).mpr ⟨?_, rfl⟩, ?_,
    (names.found "FIXED32" .fixed32).mpr rfl, capitalized, ?_, ?_, cut, ?_⟩
  · intro wireType
    cases wireType <;> decide
  · exact fun same => absurd (told _ _ same) (by decide)
  · exact fun same => absurd (apart _ _ _ _ capitalized lowered same) (by decide)
  · exact (checks "\t" memory memory .fixed32 .varint).1 (Sink.takesAll_of_memory rfl rfl)
  · intro same
    have written : check .fixed32 failing ≠ "" := by
      rw [cut]
      decide
    exact absurd ((checks "\t" failing failing .fixed32 .fixed64).2 written same) (by decide)

end RustScribe
