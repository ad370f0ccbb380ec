import LaneLift.Proofs.Lane.Inserting
import LaneLift.Proofs.Lifting.Failing
import LaneLift.Proofs.Lifting.Independence
import LaneLift.Proofs.Lifting.Safety

/-!
# The shape of lifted words

The entries that a lifted word adds to a function read the banks of its registers, insert the
lanes of its destination one after another into what was read of its bank, and commit this bank
at the end. So a block that is lifted commits once for each of its words.
-/

namespace LaneLift

open Lane (Code CodeBuilder Entry Inserts Lacks Opcode ScalarType banksRead)

def Span.bank (span : Span) : Nat :=
  span.offset / 16

def Span.HasLane (span : Span) (type : ScalarType) (lane : Nat) : Prop :=
  span.offset ≤ 16 * span.bank + type.width / 8 * lane ∧
    16 * span.bank + type.width / 8 * (lane + 1) ≤ span.offset + span.bytes

namespace Lifting

structure Reworks (type : ScalarType) (written : Span) (read : List Span)
    (reads work : List Entry) (last : Nat) : Prop where
  commitless : Lacks .setBank (reads ++ work)
  ahead : Lacks .extractLane reads
  behind : Lacks .getBank work
  destination : (banksRead reads).head? = some written.bank
  once : (banksRead reads).Nodup
  banks : ∀ bank, bank ∈ banksRead reads ↔ bank = written.bank ∨ ∃ span ∈ read, bank = span.bank
  inserts : ∃ image lanes, ⟨.getBank written.bank, some image⟩ ∈ reads ∧
    Inserts type image (reads ++ work) lanes last ∧ lanes.Nodup ∧
    ∀ lane, lane ∈ lanes ↔ written.HasLane type lane

/-- The entries of a vector instruction. The banks of the destination and of the sources are read
once each, the destination's first, and all of them before a lane is extracted. Every lane of the
destination, at the width of the type, is inserted once, the first into what was read of its bank
and each other one into what the one before it has made. The last one made is what the only commit
puts back. -/
def VectorSegment (type : ScalarType) (written : Span) (read : List Span)
    (segment : List Entry) : Prop :=
  ∃ reads work last,
    segment = reads ++ work ++ [⟨.setBank written.bank last, none⟩] ∧
    Reworks type written read reads work last

/-- The entries of a VFP instruction. Every operand has a read of its bank. One more read, of the
bank of the destination, stands before the only insertion, whose lane is the destination, and the
only commit, which puts back what this has made. -/
def ScalarSegment (type : ScalarType) (written : Span) (read : List Span)
    (segment : List Entry) : Prop :=
  ∃ work image value lane last,
    segment = work ++ [⟨.getBank written.bank, some image⟩,
      ⟨.insertLane (.scalar type) image value lane, some last⟩,
      ⟨.setBank written.bank last, none⟩] ∧
    banksRead work = read.map Span.bank ∧
    Lacks .insertLane work ∧ Lacks .setBank work ∧
    written = ⟨16 * written.bank + type.width / 8 * lane, type.width / 8⟩

section Shift

variable {type : ScalarType} {written : Span} {read : List Span} {segment : List Entry}

theorem VectorSegment.shift (values : Nat) (isSegment : VectorSegment type written read segment) :
    VectorSegment type written read (segment.map (Entry.shift values)) := by
  rcases isSegment with ⟨reads, work, last, rfl, reworks⟩
  rcases reworks.inserts with ⟨image, lanes, isRead, inserts, distinct, inside⟩
  refine ⟨reads.map (Entry.shift values), work.map (Entry.shift values), last + values, ?_, ?_⟩
  · simp only [List.map_append, List.map_singleton]
    rfl
  · have banks := Lane.banksRead_shift values reads
    refine ⟨?_, ?_, ?_, ?_, ?_, ?_, image + values, lanes, ?_, ?_, distinct, inside⟩
    · rw [← List.map_append]
      exact reworks.commitless.shift values
    · exact reworks.ahead.shift values
    · exact reworks.behind.shift values
    · rw [banks]
      exact reworks.destination
    · rw [banks]
      exact reworks.once
    · rw [banks]
      exact reworks.banks
    · exact List.mem_map_of_mem isRead
    · rw [← List.map_append]
      exact inserts.shift values

theorem ScalarSegment.shift (values : Nat) (isSegment : ScalarSegment type written read segment) :
    ScalarSegment type written read (segment.map (Entry.shift values)) := by
  rcases isSegment with ⟨work, image, value, lane, last, rfl, banks, insertless, commitless, whole⟩
  refine ⟨work.map (Entry.shift values), image + values, value + values, lane, last + values,
    ?_, ?_, insertless.shift values, commitless.shift values, whole⟩
  · simp only [List.map_append, List.map_cons, List.map_nil]
    rfl
  · rw [Lane.banksRead_shift]
    exact banks

end Shift

/-! ## Work on lanes -/

def takesLanes (opcode : Opcode) : Bool :=
  opcode = .extractLane || opcode = .sextend || opcode = .uextend || opcode.isUnary ||
    opcode.isBinary

def LanesOnly (code : Code) : Prop :=
  ∀ instruction ∈ code, takesLanes instruction.opcode = true

section LanesOnly

variable {first second : Code}

theorem LanesOnly.append (firstOnly : LanesOnly first) (secondOnly : LanesOnly second) :
    LanesOnly (first ++ second) :=
  fun instruction member => (List.mem_append.mp member).elim (firstOnly instruction)
    (secondOnly instruction)

theorem LanesOnly.lacks {opcode : Opcode} (lanesOnly : LanesOnly first) (count : Nat)
    (other : takesLanes opcode = false) : Lacks opcode (first.entriesFrom count) := by
  apply Lacks.entriesFrom
  intro instruction member same
  rw [← same, lanesOnly instruction member] at other
  cases other

theorem Body.Suits.lanesOnly_place {type : ScalarType} {body : Body} {arity : Nat}
    (suits : body.Suits type arity) (operands : List Nat) (start : Nat) :
    LanesOnly (body.place operands start) := by
  have arithmetic : ∀ instruction ∈ body.code,
      instruction.opcode.isUnary = true ∨ instruction.opcode.isBinary = true := by
    cases suits with
    | operand => exact fun _ member => nomatch member
    | unary isUnary => exact List.forall_mem_singleton.mpr (.inl isUnary)
    | binary isBinary => exact List.forall_mem_singleton.mpr (.inr isBinary)
    | accumulate isMultiply _ isCombine =>
        exact List.forall_mem_cons.mpr
          ⟨.inr isMultiply, List.forall_mem_singleton.mpr (.inr isCombine)⟩
  intro instruction member
  rcases List.mem_map.mp member with ⟨inner, isInner, rfl⟩
  rw [Lane.Instruction.opcode_rename, takesLanes, Bool.or_assoc, Bool.or_eq_true]
  exact .inr (Bool.or_eq_true _ _ ▸ arithmetic inner isInner)

theorem Shape.lanesOnly_read (shape : Shape) (image lane next : Nat) :
    LanesOnly (shape.read image lane next) := by
  intro instruction member
  rw [Shape.read] at member
  split at member
  · rcases List.mem_cons.mp member with rfl | member
    · rfl
    · rw [List.mem_singleton.mp member]
      cases shape.reading <;> rfl
  · rw [List.mem_singleton.mp member]
    rfl

end LanesOnly

/-! ## Vector instructions -/

theorem nodup_eraseDups {α : Type} [BEq α] [LawfulBEq α] : ∀ values : List α,
    values.eraseDups.Nodup
  | [] => .nil
  | value :: rest => by
      rw [List.eraseDups_cons, List.nodup_cons]
      refine ⟨?_, nodup_eraseDups _⟩
      rw [List.mem_eraseDups, List.mem_filter]
      simp
termination_by values => values.length
decreasing_by exact Nat.lt_succ_of_le (List.length_filter_le _ _)

namespace VectorForm

variable {form : VectorForm} {placement : Placement}

theorem exists_laneCode (form : VectorForm) (placement : Placement) {body : Body} {arity : Nat}
    {type : ScalarType} (suits : body.Suits type arity) (index next image : Nat) :
    ∃ work value, LanesOnly work ∧
      form.laneCode placement body index next image = work ++
        [.insertLane (.scalar form.shape.type) image value
          (form.shape.lane index placement.destination.position)] := by
  refine ⟨_, _, ?_, rfl⟩
  refine LanesOnly.append (fun instruction member => ?_) (suits.lanesOnly_place _ _)
  rcases List.mem_flatMap.mp member with ⟨_, _, isRead⟩
  exact form.shape.lanesOnly_read _ _ _ instruction isRead

/-- The code of the remaining lanes inserts them one after another and commits the last image. -/
theorem exists_lanesEntries (form : VectorForm) (placement : Placement) {body : Body}
    {arity : Nat} {type : ScalarType} (suits : body.Suits type arity) (remaining : List Nat)
    (next image : Nat) :
    ∃ work last,
      (form.lanesCode placement (fun _ => body) remaining next image).entriesFrom next =
        work ++ [⟨.setBank placement.destination.bank last, none⟩] ∧
      Lacks .getBank work ∧ Lacks .setBank work ∧
      Inserts form.shape.type image work
        (remaining.map (form.shape.lane · placement.destination.position)) last := by
  induction remaining generalizing next image with
  | nil => exact ⟨[], image, rfl, .nil _, .nil _, .nil⟩
  | cons index remaining induction =>
      rcases form.exists_laneCode placement suits index next image with
        ⟨computing, value, lanesOnly, laneCode⟩
      -- What a lane leaves for the next one is the last value that its code makes.
      have inserted : next + ((form.laneCode placement body index next image).valueCount - 1) =
          next + computing.valueCount := by
        rw [laneCode, Code.valueCount_append]
        rfl
      rcases induction (next + computing.valueCount + 1) (next + computing.valueCount) with
        ⟨work, last, entries, readless, commitless, inserts⟩
      let insertion : Entry := ⟨.insertLane (.scalar form.shape.type) image value
        (form.shape.lane index placement.destination.position), some (next + computing.valueCount)⟩
      refine ⟨computing.entriesFrom next ++ insertion :: work, last, ?_, ?_, ?_, ?_⟩
      · rw [lanesCode, inserted, laneCode, List.append_assoc, Code.entriesFrom_append,
          List.singleton_append, Code.entriesFrom_cons rfl, entries, List.append_assoc,
          List.cons_append]
      · exact (lanesOnly.lacks next rfl).append (readless.cons fun same => by cases same)
      · exact (lanesOnly.lacks next rfl).append (commitless.cons fun same => by cases same)
      · exact (Inserts.of_lacks (lanesOnly.lacks next rfl)).append (.insert inserts)

theorem exists_banks (placement : Placement) :
    ∃ others, placement.banks = placement.destination.bank :: others :=
  ⟨_, List.eraseDups_cons⟩

theorem bank_span {registers : RegisterClass}
    (vector : registers = .double ∨ registers = .quad) (register : Nat) :
    (registers.span register).bank = (registers.locate register).bank := by
  rcases vector with rfl | rfl
  · show 8 * register / 16 = register / 2
    omega
  · show 16 * (register / 2) / 16 = register / 2
    omega

theorem Fits.mem_lanes_iff (fits : form.Fits) (lane : Nat) :
    lane ∈ (List.range form.shape.lanes).map
        (form.shape.lane · form.located.destination.position) ↔
      (form.shape.registers.span form.destination).HasLane form.shape.type lane := by
  have positive : 0 < form.shape.type.width / 8 := by
    cases form.shape.type <;> decide
  have offset : (form.shape.registers.span form.destination).offset =
      16 * (form.shape.registers.locate form.destination).bank +
        form.shape.type.width / 8 * (form.located.destination.position * form.shape.lanes) := by
    rw [Nat.mul_comm form.located.destination.position, ← Nat.mul_assoc, ← fits.bytes_eq]
    exact RegisterClass.offset_eq_locate fits.vector form.destination
  have bytes : (form.shape.registers.span form.destination).bytes =
      form.shape.type.width / 8 * form.shape.lanes := fits.bytes_eq
  rw [Span.HasLane, bank_span fits.vector, offset, bytes, Nat.add_assoc, ← Nat.mul_add,
    Nat.add_le_add_iff_left, Nat.add_le_add_iff_left, Nat.mul_le_mul_left_iff positive,
    Nat.mul_le_mul_left_iff positive]
  simp only [List.mem_map, List.mem_range, Shape.lane]
  constructor
  · rintro ⟨index, inside, rfl⟩
    omega
  · rintro ⟨start, stop⟩
    exact ⟨lane - form.located.destination.position * form.shape.lanes, by omega, by omega⟩

def readingCode (form : VectorForm) : Code :=
  form.constantCode ++ form.located.banks.map .getBank

theorem valueCount_constantCode (form : VectorForm) :
    form.constantCode.valueCount = form.constants.length := by
  rw [constantCode, Code.valueCount, List.countP_map]
  exact List.countP_eq_length.mpr fun _ _ => rfl

theorem valueCount_readingCode (form : VectorForm) :
    form.readingCode.valueCount = form.constants.length + form.located.banks.length := by
  have banks : Code.valueCount (form.located.banks.map .getBank) = form.located.banks.length := by
    rw [Code.valueCount, List.countP_map]
    exact List.countP_eq_length.mpr fun _ _ => rfl
  rw [readingCode, Code.valueCount_append, valueCount_constantCode, banks]

theorem banksRead_readingCode (form : VectorForm) (count : Nat) :
    banksRead (form.readingCode.entriesFrom count) = form.located.banks := by
  have constants : form.constantCode.filterMap Lane.Instruction.readBank? = [] := by
    rw [constantCode, List.filterMap_map]
    exact List.filterMap_eq_nil_iff.mpr fun _ _ => rfl
  have banks : (form.located.banks.map .getBank).filterMap Lane.Instruction.readBank? =
      form.located.banks := by
    rw [List.filterMap_map]
    exact List.filterMap_some
  rw [Lane.banksRead_entriesFrom, readingCode, List.filterMap_append, constants, banks,
    List.nil_append]

theorem lacks_readingCode (form : VectorForm) (count : Nat) {opcode : Opcode}
    (notConstant : opcode ≠ .iconst) (notRead : opcode ≠ .getBank) :
    Lacks opcode (form.readingCode.entriesFrom count) := by
  apply Lacks.entriesFrom
  rintro instruction member rfl
  rcases List.mem_append.mp member with isConstant | isRead
  · rcases List.mem_map.mp isConstant with ⟨_, _, rfl⟩
    exact notConstant rfl
  · rcases List.mem_map.mp isRead with ⟨_, _, rfl⟩
    exact notRead rfl

theorem mem_readingCode (form : VectorForm) :
    (⟨.getBank form.located.destination.bank,
      some (form.imageOf form.located form.located.destination.bank)⟩ : Entry) ∈
        form.readingCode.entriesFrom 0 := by
  rcases exists_banks form.located with ⟨others, banks⟩
  rw [readingCode, imageOf, banks, List.idxOf_cons_self, Code.entriesFrom_append,
    valueCount_constantCode, List.map_cons, Code.entriesFrom_cons rfl, Nat.zero_add, Nat.add_zero]
  exact List.mem_append_right _ List.mem_cons_self

theorem Fits.entries_emission (fits : form.Fits) (body : Nat → Body) :
    (form.emission body).code.entriesFrom 0 =
      form.readingCode.entriesFrom 0 ++
        (form.lanesCode form.located body (List.range form.shape.lanes)
          (form.constants.length + form.located.banks.length)
          (form.imageOf form.located form.located.destination.bank)).entriesFrom
            (form.constants.length + form.located.banks.length) := by
  have code : (form.emission body).code = form.readingCode ++
      form.lanesCode form.located body (List.range form.shape.lanes)
        (form.constants.length + form.located.banks.length)
        (form.imageOf form.located form.located.destination.bank) := by
    rw [emission, fits.placement?]
    rfl
  rw [code, Code.entriesFrom_append, valueCount_readingCode, Nat.zero_add]

theorem Fits.vectorSegment (fits : form.Fits) {body : Body} {arity : Nat} {type : ScalarType}
    (suits : body.Suits type arity) :
    VectorSegment form.shape.type (form.shape.registers.span form.destination)
      (form.sources.map form.shape.registers.span)
      ((form.emission fun _ => body).code.entriesFrom 0) := by
  have bank := bank_span fits.vector
  have read := form.banksRead_readingCode 0
  rcases form.exists_lanesEntries form.located suits (List.range form.shape.lanes)
    (form.constants.length + form.located.banks.length)
    (form.imageOf form.located form.located.destination.bank) with
    ⟨work, last, entries, readless, commitless, inserts⟩
  refine ⟨form.readingCode.entriesFrom 0, work, last, ?_, ?_⟩
  · rw [fits.entries_emission, entries, List.append_assoc, bank]
    rfl
  · exact {
      commitless := (form.lacks_readingCode 0 (by decide) (by decide)).append commitless
      ahead := form.lacks_readingCode 0 (by decide) (by decide)
      behind := readless
      destination := by
        rcases exists_banks form.located with ⟨others, banks⟩
        rw [read, banks, bank]
        rfl
      once := by
        rw [read]
        exact nodup_eraseDups _
      banks := by
        intro other
        rw [read, Placement.banks, List.mem_eraseDups, List.mem_cons, bank]
        simp [located, bank, eq_comm]
      inserts := by
        refine ⟨form.imageOf form.located form.located.destination.bank, _, ?_, ?_, ?_,
          fits.mem_lanes_iff⟩
        · rw [bank]
          exact form.mem_readingCode
        · exact (Inserts.of_lacks (form.lacks_readingCode 0 (by decide) (by decide))).append inserts
        · refine List.Pairwise.map _ ?_ List.nodup_range
          intro left right different
          rw [Shape.lane, Shape.lane]
          omega }

end VectorForm

/-! ## VFP instructions -/

namespace ScalarForm

variable {form : ScalarForm}

theorem span_scalarClass {type : ScalarType} (float : type.isFloat = true) (register : Nat) :
    ((scalarClass type).span register).bank = (scalarLocation (.scalar type) register).bank ∧
      (scalarClass type).span register =
        ⟨16 * (scalarLocation (.scalar type) register).bank +
          type.width / 8 * (scalarLocation (.scalar type) register).position, type.width / 8⟩ := by
  cases type with
  | f32 =>
      constructor
      · show 4 * register / 16 = register / 4
        omega
      · show Span.mk (4 * register) 4 = ⟨16 * (register / 4) + 4 * (register % 4), 4⟩
        congr 1
        omega
  | f64 =>
      constructor
      · show 8 * register / 16 = register / 2
        omega
      · show Span.mk (8 * register) 8 = ⟨16 * (register / 2) + 8 * (register % 2), 8⟩
        congr 1
        omega
  | _ => cases float

def readingCode (form : ScalarForm) : Code :=
  form.sources.zipIdx.flatMap fun (source, index) =>
    readScalar (.scalar form.type) source (2 * index)

theorem filterMap_reads (type : ScalarType) (sources : List Nat) (first : Nat) :
    (((sources.zipIdx first).flatMap fun (source, index) =>
        readScalar (.scalar type) source (2 * index)) : Code).filterMap
          Lane.Instruction.readBank? =
      sources.map fun source => (scalarLocation (.scalar type) source).bank := by
  induction sources generalizing first with
  | nil => rfl
  | cons source rest induction =>
      rw [List.zipIdx_cons, List.flatMap_cons, List.filterMap_append, induction, List.map_cons]
      rfl

theorem valueCount_reads (type : ScalarType) (sources : List Nat) (first : Nat) :
    Code.valueCount ((sources.zipIdx first).flatMap fun (source, index) =>
        readScalar (.scalar type) source (2 * index)) = 2 * sources.length := by
  induction sources generalizing first with
  | nil => rfl
  | cons source rest induction =>
      rw [List.zipIdx_cons, List.flatMap_cons, Code.valueCount_append, induction,
        List.length_cons, Nat.mul_succ, Nat.add_comm]
      rfl

theorem lacks_readingCode (form : ScalarForm) (count : Nat) {opcode : Opcode}
    (notRead : opcode ≠ .getBank) (notExtraction : opcode ≠ .extractLane) :
    Lacks opcode (form.readingCode.entriesFrom count) := by
  apply Lacks.entriesFrom
  rintro instruction member rfl
  rcases List.mem_flatMap.mp member with ⟨_, _, isRead⟩
  rcases List.mem_cons.mp isRead with rfl | isRead
  · exact notRead rfl
  · rw [List.mem_singleton.mp isRead] at notExtraction
    exact notExtraction rfl

theorem Fits.scalarSegment (fits : form.Fits) {body : Body} {arity : Nat} {type : ScalarType}
    (suits : body.Suits type arity) :
    ScalarSegment form.type ((scalarClass form.type).span form.destination)
      (form.sources.map (scalarClass form.type).span)
      ((form.emission body).code.entriesFrom 0) := by
  rcases span_scalarClass fits.float form.destination with ⟨bank, whole⟩
  let start := 2 * form.sources.length
  let operands := (List.range form.sources.length).map fun index => 2 * index + 1
  let computing := body.place operands start
  let next := start + body.code.valueCount
  have lanesOnly : LanesOnly computing := suits.lanesOnly_place operands start
  have reading : form.readingCode.valueCount = start := valueCount_reads form.type form.sources 0
  have code : (form.emission body).code = form.readingCode ++ computing ++
      writeScalar (.scalar form.type) form.destination (body.placedResult operands start) next := by
    rw [emission, fits.keeps]
    rfl
  have entries : (form.emission body).code.entriesFrom 0 =
      form.readingCode.entriesFrom 0 ++ computing.entriesFrom start ++
        (writeScalar (.scalar form.type) form.destination (body.placedResult operands start)
          next).entriesFrom next := by
    rw [code, Code.entriesFrom_append, Code.entriesFrom_append, Code.valueCount_append, reading,
      Body.valueCount_place, Nat.zero_add, Nat.zero_add]
  refine ⟨form.readingCode.entriesFrom 0 ++ computing.entriesFrom start, next,
    body.placedResult operands start,
    (scalarLocation (.scalar form.type) form.destination).position, next + 1, ?_, ?_, ?_, ?_, ?_⟩
  · rw [entries, bank]
    rfl
  · rw [Lane.banksRead_append, Lane.banksRead_of_lacks (lanesOnly.lacks start rfl),
      List.append_nil, Lane.banksRead_entriesFrom, List.map_map]
    refine (filterMap_reads form.type form.sources 0).trans (List.map_congr_left ?_)
    intro source _
    exact (span_scalarClass fits.float source).1.symm
  · exact (form.lacks_readingCode 0 (by decide) (by decide)).append (lanesOnly.lacks start rfl)
  · exact (form.lacks_readingCode 0 (by decide) (by decide)).append (lanesOnly.lacks start rfl)
  · rw [bank]
    exact whole

end ScalarForm

/-! ## Plans -/

def HasSegment (scalar : Bool) (type : ScalarType) (written : Span) (read : List Span)
    (segment : List Entry) : Prop :=
  if scalar then ScalarSegment type written read segment
  else VectorSegment type written read segment

namespace HasSegment

variable {scalar : Bool} {type : ScalarType} {written : Span} {read : List Span}
  {segment : List Entry}

theorem shift (isSegment : HasSegment scalar type written read segment) (values : Nat) :
    HasSegment scalar type written read (segment.map (Entry.shift values)) := by
  cases scalar with
  | true => exact ScalarSegment.shift values isSegment
  | false => exact VectorSegment.shift values isSegment

theorem countP_setBank (isSegment : HasSegment scalar type written read segment) :
    segment.countP (fun entry => entry.instruction.opcode = .setBank) = 1 := by
  have absent : ∀ {entries : List Entry}, Lacks .setBank entries →
      entries.countP (fun entry => entry.instruction.opcode = .setBank) = 0 := by
    intro entries lacks
    rw [List.countP_eq_zero]
    exact fun entry member same => lacks entry member (of_decide_eq_true same)
  cases scalar with
  | true =>
      rcases isSegment with ⟨work, image, value, lane, last, rfl, _, _, commitless, _⟩
      rw [List.countP_append, absent commitless]
      rfl
  | false =>
      rcases isSegment with ⟨reads, work, last, rfl, reworks⟩
      rw [List.countP_append, absent reworks.commitless]
      rfl

end HasSegment

def Plan.isScalar : Plan → Bool
  | .vector _ _ => false
  | .scalar _ _ => true

def Plan.laneType : Plan → ScalarType
  | .vector form _ => form.shape.type
  | .scalar form _ => form.type

theorem Plan.Sound.hasSegment {plan : Plan} : plan.Sound →
    HasSegment plan.isScalar plan.laneType plan.written plan.read
      (plan.emission.code.entriesFrom 0)
  | .vector fits _ suits => fits.vectorSegment suits
  | .scalar fits suits => fits.scalarSegment suits

end Lifting

/-! ## Words -/

open Guest (Address Mnemonic Word)

namespace Guest

def Word.isFloat (word : Word) : Mnemonic → Bool
  | .vaddV | .vsubV | .vmulV | .vmlaV | .vmlsV => true
  | .vabsV | .vnegV => word.flag 10
  | mnemonic => mnemonic.isScalar

def Word.laneType (word : Word) (mnemonic : Mnemonic) : ScalarType :=
  let size := (mnemonic.layout.decode word).size
  if word.isFloat mnemonic then .floatOfSize size else .integerOfSize size

def Word.HasSegment (word : Word) (mnemonic : Mnemonic) (segment : List Entry) : Prop :=
  Lifting.HasSegment mnemonic.isScalar (word.laneType mnemonic) (word.written mnemonic)
    (word.read mnemonic) segment

end Guest

namespace Lifting

variable {word : Word} {mnemonic : Mnemonic} {plan : Plan}

theorem isScalar_of_plan (planned : plan? mnemonic (mnemonic.layout.decode word) = some plan) :
    plan.isScalar = mnemonic.isScalar := by
  have keeps := keeps_of_plan? planned
  -- The layout of a class tells whether its plans are scalar, except for bitfields.
  cases mnemonic with
  | bfc | bfi => cases planned
  | _ =>
      cases keeps with
      | vector own _ => first | rfl | cases own
      | scalar notVector => first | rfl | cases notVector

theorem laneType_of_plan (planned : plan? mnemonic (mnemonic.layout.decode word) = some plan) :
    plan.laneType = word.laneType mnemonic := by
  cases mnemonic with
  | bfc | bfi => cases planned
  | vabsV | vnegV =>
      simp only [plan?, pairPlan?, Mnemonic.layout, Guest.Layout.decode] at planned
      split at planned <;> rename_i flag <;> cases planned <;>
        simp only [Word.laneType, Word.isFloat, flag] <;> rfl
  | vmax | vmin =>
      simp only [plan?, triplePlan?, Mnemonic.layout, Guest.Layout.decode] at planned
      split at planned <;> cases planned <;> rfl
  | vmovI =>
      simp only [plan?, immediatePlan?, Mnemonic.layout, Guest.Layout.decode] at planned
      split at planned <;> cases planned
      rfl
  | _ =>
      cases planned
      rfl

end Lifting

section Words

variable {settings : Settings} {address : Address} {word : Word}

theorem hasSegment_liftWord (accepted : (liftWord settings address word).result = .ok ()) :
    ∃ row, Guest.lookup? word = some row ∧ word.HasSegment row.descriptor.mnemonic
      ((liftWord settings address word).code.entriesFrom 0) := by
  rcases exists_plan accepted with ⟨row, plan, found, allowed, planned⟩
  refine ⟨row, found, ?_⟩
  have sound := Lifting.sound_of_plan planned
  rw [Guest.layout_of_lookup? found] at planned
  rcases Lifting.spans_of_plan (Guest.Word.flag_of_lookup? found) planned with ⟨written, read⟩
  rw [(liftWord_of_plan found allowed (Guest.layout_of_lookup? found ▸ planned)).1,
    Guest.Word.HasSegment, ← written, ← read, ← Lifting.isScalar_of_plan planned,
    ← Lifting.laneType_of_plan planned]
  exact sound.hasSegment

theorem exists_segment (accepted : (liftWord settings address word).result = .ok ()) :
    ∃ row, Guest.lookup? word = some row ∧ ∀ function : Lane.Function, ∃ segment,
      (CodeBuilder.append function (liftWord settings address word).code).entries.toList =
        function.entries.toList ++ segment ∧
      word.HasSegment row.descriptor.mnemonic segment := by
  rcases hasSegment_liftWord accepted with ⟨row, found, isSegment⟩
  rcases makes_liftWord settings address word with ⟨made, makes⟩
  exact ⟨row, found, fun function =>
    ⟨_, Lane.Function.entries_append makes function, isSegment.shift function.valueCount⟩⟩

theorem count_setBank_liftWord (accepted : (liftWord settings address word).result = .ok ())
    (function : Lane.Function) :
    (CodeBuilder.append function (liftWord settings address word).code).count .setBank =
      function.count .setBank + 1 := by
  rcases exists_segment accepted with ⟨row, _, adds⟩
  rcases adds function with ⟨segment, entries, isSegment⟩
  rw [Lane.Function.count, entries, List.countP_append, isSegment.countP_setBank,
    ← Lane.Function.count]

end Words

theorem count_setBank_liftFrom {settings : Settings} {address : Address} {words : List Word}
    {index count : Nat} (accepted : (liftFrom settings address index words).result = .ok count)
    (function : Lane.Function) :
    (CodeBuilder.appendAll function (liftFrom settings address index words).segments).count
        .setBank =
      function.count .setBank + words.length := by
  induction words generalizing index function with
  | nil => rfl
  | cons word rest induction =>
      have lifted := liftWord_of_liftFrom accepted
      rw [liftFrom_cons lifted] at accepted ⊢
      have others := induction accepted
        (CodeBuilder.append function (liftWord settings (wordAddress address index) word).code)
      rw [count_setBank_liftWord lifted, Nat.add_assoc, Nat.add_comm 1] at others
      exact others

/-- Whatever a function holds, a word that is lifted adds entries of one shape to it: those of a
VFP instruction or of a vector instruction on the registers that the word names. So the function
of a block that is lifted commits as often as the block has words. -/
theorem liftBlock_disciplined (settings : Settings) :
    (∀ address word, (liftWord settings address word).result = .ok () →
      ∃ row, Guest.lookup? word = some row ∧ ∀ function : Lane.Function, ∃ segment,
        (CodeBuilder.append function (liftWord settings address word).code).entries.toList =
          function.entries.toList ++ segment ∧
        word.HasSegment row.descriptor.mnemonic segment) ∧
    ∀ address words count name, (liftBlock settings address words).result = .ok count →
      ((liftBlock settings address words).function name).count .setBank = words.length := by
  refine ⟨fun address word accepted => exists_segment accepted, ?_⟩
  intro address words count name accepted
  have counted := count_setBank_liftFrom accepted { name := name }
  rw [show Lane.Function.count { name := name } .setBank = 0 from rfl, Nat.zero_add] at counted
  exact counted

/-- The words of `vadd.f32 q1, q2, q3` and `vneg.f32 s1, s0`, the second one behind the first. -/
theorem liftBlock_disciplined_pair :
    let first : Lane.Function := CodeBuilder.append { name := "pair" }
      (liftWord {} 0x1000 0xf2042d46).code
    Lifting.VectorSegment .f32 ⟨16, 16⟩ [⟨32, 16⟩, ⟨48, 16⟩] first.entries.toList ∧
    (∃ segment,
      (CodeBuilder.append first (liftWord {} 0x1004 0xeef10a40).code).entries.toList =
        first.entries.toList ++ segment ∧
      Lifting.ScalarSegment .f32 ⟨4, 4⟩ [⟨0, 4⟩] segment) ∧
    ((liftBlock {} 0x1000 [0xf2042d46, 0xeef10a40]).function "pair").count .setBank = 2 := by
  intro first
  have foundVector : Guest.lookup? 0xf2042d46 = some
      ⟨0xffa00f10, 0xf2000d00, .vaddV, .vectorTriple⟩ := by rfl
  have foundScalar : Guest.lookup? 0xeef10a40 = some
      ⟨0xffbf0ed0, 0xeeb10a40, .vnegS, .scalarPair⟩ := by rfl
  rcases (liftBlock_disciplined {}).1 0x1000 0xf2042d46 rfl with ⟨vector, isVector, vectorAdds⟩
  rcases (liftBlock_disciplined {}).1 0x1004 0xeef10a40 rfl with ⟨scalar, isScalar, scalarAdds⟩
  cases foundVector.symm.trans isVector
  cases foundScalar.symm.trans isScalar
  rcases vectorAdds { name := "pair" } with ⟨segment, entries, vectorShape⟩
  have onlyVector : first.entries.toList = segment := entries
  rw [← onlyVector] at vectorShape
  exact ⟨vectorShape, scalarAdds first,
    (liftBlock_disciplined {}).2 0x1000 [0xf2042d46, 0xeef10a40] 2 "pair" rfl⟩

end LaneLift
