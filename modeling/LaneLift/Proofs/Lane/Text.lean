import LaneLift.Lane.Run
import LaneLift.Proofs.Text.Separation

/-!
# What the text of a function tells

The text of a function determines its name, its instructions and the values that they make.
An instruction is spelled by its opcode, a suffix and its arguments, and can be read back from
these parts, also where any opcode can stand. Lines have no braces, so the last opening brace
of a text closes its header, whatever the name.
-/

namespace LaneLift.Lane

/-! ## Names -/

theorem Opcode.name_injective {left right : Opcode} (same : left.name = right.name) :
    left = right := by
  have distinct : ∀ left ∈ all, ∀ right ∈ all, left.name = right.name → left = right := by
    decide +kernel
  exact distinct left left.mem_all right right.mem_all same

theorem Opcode.plain_name (opcode : Opcode) : MadeOf isPlain opcode.name := by
  cases opcode <;> decide

/-- No opcode begins like a value. -/
theorem Opcode.head?_name (opcode : Opcode) :
    ∃ first rest, opcode.name.toList = first :: rest ∧ first ≠ 'v' := by
  cases opcode <;> exact ⟨_, _, rfl, by decide⟩

theorem ValueType.mem_all (type : ValueType) : type ∈ all := by
  cases type with
  | image => decide
  | scalar type => cases type <;> decide

theorem ValueType.name_injective {left right : ValueType} (same : left.name = right.name) :
    left = right := by
  have distinct : ∀ left ∈ all, ∀ right ∈ all, left.name = right.name → left = right := by
    decide +kernel
  exact distinct left left.mem_all right right.mem_all same

theorem ValueType.plain_name (type : ValueType) : MadeOf isPlain type.name := by
  cases type with
  | image => decide
  | scalar type => cases type <;> decide

/-! ## Arguments -/

inductive Argument where
  | bank (number : Nat)
  | value (number : Nat)
  | decimal (number : Int)
  | pattern (digits : Nat) (bits : BitVec (4 * digits))

namespace Argument

def text : Argument → String
  | .bank number => bankText number
  | .value number => valueText number
  | .decimal number => toString number
  | .pattern digits bits => "0x" ++ Hexadecimal.padded digits bits.toNat

theorem plain_text (argument : Argument) : MadeOf isPlain argument.text := by
  cases argument with
  | bank number => exact MadeOf.append (by decide) (plain_toString_nat number)
  | value number => exact MadeOf.append (by decide) (plain_toString_nat number)
  | decimal number => exact plain_toString_int number
  | pattern digits bits => exact MadeOf.append (by decide) (Hexadecimal.plain_padded digits _)

def letter? : Argument → Option Char
  | .bank _ => some 'q'
  | .value _ => some 'v'
  | .decimal _ => none
  | .pattern _ _ => some 'x'

theorem find?_text (argument : Argument) :
    argument.text.toList.find? (fun character => !isDecimal character) = argument.letter? := by
  cases argument with
  | bank number =>
      rw [text, bankText, String.toList_append]
      rfl
  | value number =>
      rw [text, valueText, String.toList_append]
      rfl
  | pattern digits bits =>
      rw [text, String.toList_append]
      rfl
  | decimal number =>
      rw [text, letter?, List.find?_eq_none]
      intro character member
      rw [decimal_toString_int number character member]
      decide

theorem text_injective {left right : Argument} (same : left.text = right.text) : left = right := by
  have sameLetter : left.letter? = right.letter? := by
    rw [← find?_text, ← find?_text, same]
  cases left with
  | bank left =>
      cases right with
      | bank right =>
          rw [text, text, bankText, bankText, String.append_right_inj] at same
          rw [toString_nat_injective same]
      | _ => simp [letter?] at sameLetter
  | value left =>
      cases right with
      | value right =>
          rw [text, text, valueText, valueText, String.append_right_inj] at same
          rw [toString_nat_injective same]
      | _ => simp [letter?] at sameLetter
  | decimal left =>
      cases right with
      | decimal right => rw [toString_int_injective same]
      | _ => simp [letter?] at sameLetter
  | pattern digits left =>
      cases right with
      | pattern otherDigits right =>
          rw [text, text, String.append_right_inj] at same
          have sameDigits : digits = otherDigits := by
            simpa [Hexadecimal.padded] using congrArg String.length same
          subst sameDigits
          rw [Hexadecimal.padded_toNat_injective same]
      | _ => simp [letter?] at sameLetter

end Argument

/-! ## Instructions -/

def isWord (character : Char) : Bool :=
  isPlain character || character = '.'

theorem isWord_of_isPlain (character : Char) (plain : isPlain character = true) :
    isWord character = true := by
  rw [isWord, plain, Bool.true_or]

def isWritten (character : Char) : Bool :=
  isWord character || character = ' ' || character = ',' || character = '='

theorem isWritten_of_isWord (character : Char) (word : isWord character = true) :
    isWritten character = true := by
  rw [isWritten, word, Bool.true_or, Bool.true_or, Bool.true_or]

namespace Instruction

def suffix? : Instruction → Option ValueType
  | .extractLane type _ _ | .insertLane type _ _ _ | .iconst type _ | .extend _ type _ => some type
  | .getBank _ | .setBank _ _ | .f32const _ | .f64const _ | .unary _ _ | .binary _ _ _ => none

def arguments : Instruction → List Argument
  | .getBank bank => [.bank bank]
  | .setBank bank image => [.bank bank, .value image]
  | .extractLane _ image lane => [.value image, .decimal lane]
  | .insertLane _ image value lane => [.value image, .value value, .decimal lane]
  | .iconst _ immediate => [.decimal immediate.toInt]
  | .f32const pattern => [.pattern 8 pattern]
  | .f64const pattern => [.pattern 16 pattern]
  | .extend _ _ argument => [.value argument]
  | .unary _ argument => [.value argument]
  | .binary _ left right => [.value left, .value right]

def ofParts? (opcode : Opcode) : Option ValueType → List Argument → Option Instruction
  | none, [.bank bank] => some (.getBank bank)
  | none, [.bank bank, .value image] => some (.setBank bank image)
  | some type, [.value image, .decimal lane] => some (.extractLane type image lane.toNat)
  | some type, [.value image, .value value, .decimal lane] =>
      some (.insertLane type image value lane.toNat)
  | some type, [.decimal immediate] => some (.iconst type (.ofInt 64 immediate))
  | none, [.pattern 8 pattern] => some (.f32const pattern)
  | none, [.pattern 16 pattern] => some (.f64const pattern)
  | some type, [.value argument] => some (.extend opcode type argument)
  | none, [.value argument] => some (.unary opcode argument)
  | none, [.value left, .value right] => some (.binary opcode left right)
  | _, _ => none

theorem ofParts?_parts (instruction : Instruction) :
    ofParts? instruction.opcode instruction.suffix? instruction.arguments = some instruction := by
  cases instruction with
  | iconst type immediate =>
      rw [suffix?, arguments, ofParts?, BitVec.ofInt_toInt]
  | _ => rfl

def headWords (instruction : Instruction) : List String :=
  instruction.opcode.name :: (instruction.suffix?.map ValueType.name).toList

theorem headWords_ne_nil (instruction : Instruction) : instruction.headWords ≠ [] :=
  List.cons_ne_nil _ _

def head (instruction : Instruction) : String :=
  ".".intercalate instruction.headWords

theorem plain_of_mem_headWords (instruction : Instruction) :
    ∀ word ∈ instruction.headWords, MadeOf isPlain word := by
  intro word member
  rcases List.mem_cons.mp member with rfl | suffix
  · exact Opcode.plain_name _
  · rcases Option.map_eq_some_iff.mp (Option.mem_toList.mp suffix) with ⟨type, _, rfl⟩
    exact type.plain_name

theorem word_head (instruction : Instruction) : MadeOf isWord instruction.head :=
  MadeOf.intercalate (by decide) fun word member =>
    (instruction.plain_of_mem_headWords word member).weaken isWord_of_isPlain

theorem text_eq (instruction : Instruction) :
    instruction.text = instruction.head ++ " " ++
      ", ".intercalate (instruction.arguments.map Argument.text) := by
  have lane_text : ∀ lane : Nat, (lane : Int).repr = lane.repr := fun _ => rfl
  have pattern_text : ∀ numeral : String, " 0x" ++ numeral = " " ++ ("0x" ++ numeral) := by
    intro numeral
    rw [← String.append_assoc]
    rfl
  cases instruction <;>
    simp [text, head, headWords, suffix?, arguments, opcode, Argument.text, String.append_assoc,
      lane_text, pattern_text]

theorem opcode_suffix?_eq_of_head_eq {left right : Instruction} (same : left.head = right.head) :
    left.opcode = right.opcode ∧ left.suffix? = right.suffix? := by
  have absent : ∀ instruction : Instruction, ∀ word ∈ instruction.headWords, '.' ∉ word.toList :=
    fun instruction word member => (instruction.plain_of_mem_headWords word member).absent rfl
  rw [head, head] at same
  have sameWords := Separation.eq_of_intercalate_eq rfl left.headWords_ne_nil
    right.headWords_ne_nil (absent left) (absent right) same
  rw [headWords, headWords, List.cons.injEq] at sameWords
  constructor
  · exact Opcode.name_injective sameWords.1
  · have sameName : left.suffix?.map ValueType.name = right.suffix?.map ValueType.name := by
      simpa using congrArg List.head? sameWords.2
    exact Option.map_injective (fun _ _ => ValueType.name_injective) sameName

theorem arguments_ne_nil (instruction : Instruction) : instruction.arguments ≠ [] := by
  cases instruction <;> exact List.cons_ne_nil _ _

theorem arguments_eq_of_texts_eq {left right : Instruction}
    (same : ", ".intercalate (left.arguments.map Argument.text) =
      ", ".intercalate (right.arguments.map Argument.text)) :
    left.arguments = right.arguments := by
  have absent : ∀ instruction : Instruction, ∀ text ∈ instruction.arguments.map Argument.text,
      ',' ∉ text.toList := by
    intro instruction
    rw [List.forall_mem_map]
    exact fun argument _ => argument.plain_text.absent rfl
  have nonempty : ∀ instruction : Instruction, instruction.arguments.map Argument.text ≠ [] :=
    fun instruction => mt List.map_eq_nil_iff.mp instruction.arguments_ne_nil
  apply (List.map_inj_right fun _ _ => Argument.text_injective).mp
  exact Separation.eq_of_intercalate_eq rfl (nonempty left) (nonempty right) (absent left)
    (absent right) same

theorem text_injective {left right : Instruction} (same : left.text = right.text) :
    left = right := by
  rw [text_eq, text_eq] at same
  -- The first space ends the head, as the head has none.
  rcases Separation.eq_of_append_eq rfl (left.word_head.absent rfl) (right.word_head.absent rfl)
    same with ⟨sameHead, sameArguments⟩
  rcases opcode_suffix?_eq_of_head_eq sameHead with ⟨sameOpcode, sameSuffix⟩
  apply Option.some.inj
  rw [← ofParts?_parts left, ← ofParts?_parts right, sameOpcode, sameSuffix,
    arguments_eq_of_texts_eq sameArguments]

theorem written_text (instruction : Instruction) : MadeOf isWritten instruction.text := by
  rw [text_eq]
  apply (MadeOf.append (instruction.word_head.weaken isWritten_of_isWord) (by decide)).append
  apply MadeOf.intercalate (by decide)
  rw [List.forall_mem_map]
  exact fun argument _ => (argument.plain_text.weaken isWord_of_isPlain).weaken isWritten_of_isWord

theorem head?_text (instruction : Instruction) : instruction.text.toList.head? ≠ some 'v' := by
  rcases instruction.opcode.head?_name with ⟨first, rest, name, noValue⟩
  rw [text.eq_def, String.toList_append, name]
  exact fun same => noValue (Option.some.inj same)

end Instruction

/-! ## Lines -/

namespace Entry

def resultText (entry : Entry) : String :=
  match entry.result with
  | some value => valueText value ++ " = "
  | none => ""

def content (entry : Entry) : String :=
  "    " ++ entry.resultText ++ entry.instruction.text

theorem line_eq (entry : Entry) : entry.line = entry.content ++ "\n" :=
  rfl

theorem written_content (entry : Entry) : MadeOf isWritten entry.content := by
  apply MadeOf.append (MadeOf.append (by decide) _) entry.instruction.written_text
  cases resultCase : entry.result with
  | none =>
      rw [resultText, resultCase]
      decide
  | some value =>
      rw [resultText, resultCase]
      have plain := (Argument.value value).plain_text
      exact ((plain.weaken isWord_of_isPlain).weaken isWritten_of_isWord).append (by decide)

theorem valueText_append_ne_text (value : Nat) (rest : String) (instruction : Instruction) :
    valueText value ++ rest ≠ instruction.text := by
  intro same
  apply instruction.head?_text
  rw [← same, valueText, String.toList_append, String.toList_append]
  rfl

theorem resultText_append_injective : ∀ {left right : Entry},
    left.resultText ++ left.instruction.text = right.resultText ++ right.instruction.text →
      left = right
  | ⟨left, none⟩, ⟨right, none⟩, same => by
      rw [resultText, resultText, String.empty_append, String.empty_append] at same
      exact congrArg (Entry.mk · none) (Instruction.text_injective same)
  | ⟨left, none⟩, ⟨right, some value⟩, same => by
      rw [resultText, resultText, String.empty_append, String.append_assoc] at same
      exact absurd same.symm (valueText_append_ne_text value _ left)
  | ⟨left, some value⟩, ⟨right, none⟩, same => by
      rw [resultText, resultText, String.empty_append, String.append_assoc] at same
      exact absurd same (valueText_append_ne_text value _ right)
  | ⟨left, some value⟩, ⟨right, some other⟩, same => by
      rcases Separation.eq_of_append_eq rfl ((Argument.value value).plain_text.absent rfl)
        ((Argument.value other).plain_text.absent rfl) same with ⟨sameValue, sameText⟩
      cases Argument.text_injective sameValue
      exact congrArg (Entry.mk · (some value)) (Instruction.text_injective sameText)

theorem content_injective {left right : Entry} (same : left.content = right.content) :
    left = right := by
  rw [content, content, String.append_assoc, String.append_assoc, String.append_right_inj] at same
  exact resultText_append_injective same

end Entry

/-! ## Functions -/

namespace Function

def bodyText (function : Function) : String :=
  "\n" ++ String.join (function.entries.toList.map Entry.line) ++ "\x7d\n"

theorem text_eq (function : Function) :
    function.text = ("function %" ++ function.name ++ " ") ++ "\x7b" ++ function.bodyText := by
  have brace : " \x7b\n" = " " ++ "\x7b" ++ "\n" := rfl
  rw [text, bodyText, brace]
  simp only [String.append_assoc]

/-- The opening brace of a function is the last one in its text. -/
theorem brace_not_mem_bodyText (function : Function) : '\x7b' ∉ function.bodyText.toList := by
  have absent : ∀ entry ∈ function.entries.toList, '\x7b' ∉ entry.line.toList := by
    intro entry _
    rw [Entry.line_eq, String.toList_append, List.mem_append, not_or]
    exact ⟨entry.written_content.absent rfl, by decide⟩
  simpa [bodyText, String.toList_join] using absent

theorem bodyText_injective {left right : Function} (same : left.bodyText = right.bodyText) :
    left.entries = right.entries := by
  rw [bodyText, bodyText, String.append_left_inj, String.append_right_inj] at same
  have absent : ∀ function : Function,
      ∀ content ∈ function.entries.toList.map Entry.content, '\n' ∉ content.toList := by
    intro function
    rw [List.forall_mem_map]
    exact fun entry _ => entry.written_content.absent rfl
  have lines : ∀ function : Function, function.entries.toList.map Entry.line =
      (function.entries.toList.map Entry.content).map (· ++ "\n") := by
    intro function
    rw [List.map_map]
    rfl
  rw [lines, lines] at same
  have sameContents := Separation.eq_of_join_eq rfl (absent left) (absent right) same
  exact Array.toList_inj.mp
    ((List.map_inj_right fun _ _ => Entry.content_injective).mp sameContents)

theorem name_entries_eq_of_text_eq {left right : Function} (same : left.text = right.text) :
    left.name = right.name ∧ left.entries = right.entries := by
  rw [text_eq, text_eq] at same
  -- A name may have braces of its own, so the text is cut at the last one and not at the first.
  rcases Separation.eq_of_append_eq_last rfl rfl left.brace_not_mem_bodyText
    right.brace_not_mem_bodyText same with ⟨sameHeader, sameBody⟩
  rw [String.append_left_inj, String.append_right_inj] at sameHeader
  exact ⟨sameHeader, bodyText_injective sameBody⟩

/-- Functions of one text have the same name, instructions and results, and run in the same
way. Only the types that were declared for the results can differ. -/
theorem determined_by_text [FloatArithmetic] (left right : Function)
    (same : left.text = right.text) :
    left.name = right.name ∧ left.code = right.code ∧
      (∀ position, left.result? position = right.result? position) ∧
      ∀ registers, left.run registers = right.run registers := by
  rcases name_entries_eq_of_text_eq same with ⟨sameName, sameEntries⟩
  refine ⟨sameName, ?_, fun position => ?_, fun registers => ?_⟩
  · rw [code, code, sameEntries]
  · rw [result?, result?, sameEntries]
  · rw [run, run, sameEntries]

theorem determined_by_text_retyped :
    let named : Function := { name := "a \x7b\n    v0 = get_bank q1\n\x7d" }
    let left := named.push (.unary .getBank 7) (some .image)
    let right := named.push (.unary .getBank 7) (some (.scalar .i8))
    left ≠ right ∧ left.text = right.text ∧
      left.name = right.name ∧ left.code = right.code ∧
      (∀ position, left.result? position = right.result? position) ∧
      ∀ registers, left.run registers = right.run registers := by
  intro named left right
  have same : left.text = right.text := rfl
  exact ⟨by decide, same, determined_by_text left right same⟩

end Function

end LaneLift.Lane
