/-
**Which calls are accepted.**

A call is checked in two rounds, and each round stops at the first argument that it does not accept.
`check_exact` says which calls go through, without mention of the rounds: the number of arguments is
right, every argument takes its value, and every value of a checked argument fits. It also says which
argument a refused call is blamed on.

* `convert_eq_ok_iff`: an argument is converted exactly if it takes its value.
* `convertAll_eq_ok_iff`, `convertAll_eq_error`: the first round.
* `checkShapes_eq_ok_iff`, `checkShapes_eq_error`: the second round.
* `valueOf_buffersOf`: the names in bounds mean the values that are passed.
-/

import ForeignGlue.Proofs.Call.Shape

namespace ForeignGlue

open ForeignGlue.Text
open ForeignGlue.Expression

/-! ### Values -/

namespace HostValue

/-- The type of the elements of a value that an array can be made of. -/
def element? : HostValue → Option ValueType
  | .int _ => some .integer
  | .float _ => some .real
  | .complex _ _ => some .complex
  | .text _ => some .character
  | .array element _ => some element
  | .record _ | .unconvertible => none

/-- The shape of a value. A text has its length in bytes. -/
def shape : HostValue → List Nat
  | .text content => [byteSize content.toList]
  | .array _ shape => shape
  | .int _ | .float _ | .complex _ _ | .record _ | .unconvertible => []

/-- The integer that a bare number goes for. -/
def number? : HostValue → Option Int
  | .int value => some value
  | .float value => some (wholePart value)
  | .complex _ _ | .text _ | .array _ _ | .record _ | .unconvertible => none

end HostValue

namespace Argument

/-- **The values that an argument takes**: a record of its own type, text for text, and numbers of
its own width or less. -/
def Takes (declared : Argument) (value : HostValue) : Prop :=
  match declared.type with
  | .record name => value = .record name
  | .character => value.element? = some .character
  | numeric => ∃ given level limit, value.element? = some given ∧ given.level? = some level ∧
      numeric.level? = some limit ∧ level ≤ limit

/-- The buffer of a value that an argument takes. -/
def bufferOf (declared : Argument) (value : HostValue) : Buffer where
  position := declared.position
  rank := value.shape.length
  shape := value.shape
  value := value.number?

theorem data?_eq (value : HostValue) :
    value.data? = value.element?.map fun given => (given, value.shape, value.number?) := by
  cases value <;> rfl

/-- What is not a record is taken by its width, or because both sides are text. -/
theorem takes_iff {declared : Argument} {value : HostValue}
    (plain : ∀ name, declared.type ≠ .record name) :
    declared.Takes value ↔ ∃ given, value.element? = some given ∧ declared.type.accepts given := by
  unfold Takes
  split
  · next name isRecord => exact absurd isRecord (plain name)
  · next isCharacter =>
      rw [isCharacter]
      constructor
      · intro isText
        exact ⟨.character, isText, rfl⟩
      · rintro ⟨given, isGiven, accepted⟩
        cases given with
        | character => exact isGiven
        | _ => simp [ValueType.accepts, ValueType.level?, ValueType.isCharacter] at accepted
  · next numeric _ notCharacter =>
      constructor
      · rintro ⟨given, level, limit, isGiven, isLevel, isLimit, within⟩
        exact ⟨given, isGiven, by simp [ValueType.accepts, isLevel, isLimit, within]⟩
      · rintro ⟨given, isGiven, accepted⟩
        unfold ValueType.accepts at accepted
        split at accepted
        · next limit level isLimit isLevel =>
            exact ⟨given, level, limit, isGiven, isLevel, isLimit, by simpa using accepted⟩
        · next noLevel =>
            cases type : declared.type with
            | character => exact absurd type notCharacter
            | record name => exact absurd type (plain name)
            | _ => simp [type, ValueType.level?] at noLevel
        · cases accepted

/-- **An argument is converted exactly if it takes its value.** -/
theorem convert_eq_ok_iff {declared : Argument} {value : HostValue} {buffer : Buffer} :
    declared.convert value = .ok buffer ↔ declared.Takes value ∧ buffer = declared.bufferOf value := by
  unfold convert
  split
  · next expected given isRecord =>
      rw [Takes, isRecord]
      by_cases same : given = expected
      · rw [if_pos (by simpa using same), same]
        exact ⟨fun made => ⟨rfl, (Except.ok.inj made).symm⟩, fun made => congrArg _ made.2.symm⟩
      · rw [if_neg (by simpa using same)]
        exact iff_of_false (by simp) fun made => same (HostValue.record.inj made.1)
  · next expected isRecord notRecord =>
      rw [Takes, isRecord]
      exact iff_of_false (by simp) fun made => notRecord expected made.1
  · next plain =>
      rw [takes_iff plain]
      exact iff_of_false (by simp) (by simp [HostValue.element?])
  · next value _ _ _ plain _ =>
      rw [takes_iff plain, data?_eq]
      cases value.element? with
      | none => exact iff_of_false (by simp) (by simp)
      | some given =>
          by_cases accepted : declared.type.accepts given
          · simp only [Option.map_some, if_pos accepted]
            exact ⟨fun made => ⟨⟨given, rfl, accepted⟩, (Except.ok.inj made).symm⟩,
              fun made => congrArg _ made.2.symm⟩
          · simp only [Option.map_some, if_neg accepted]
            exact iff_of_false (by simp) (by simp [accepted])

end Argument

/-! ### The first round -/

namespace Routine

variable {routine : Routine} {arguments : List Argument} {values : List HostValue}

/-- The buffers of values that are all taken. -/
def buffersOf (routine : Routine) (values : List HostValue) : List Buffer :=
  List.zipWith Argument.bufferOf routine.arguments values

/-- **All arguments are converted** exactly if each takes its value. -/
theorem convertAll_eq_ok_iff {buffers : List Buffer} (count : values.length = arguments.length) :
    routine.convertAll arguments values = .ok buffers ↔
      (∀ pair ∈ arguments.zip values, pair.1.Takes pair.2) ∧
        buffers = List.zipWith Argument.bufferOf arguments values := by
  induction arguments generalizing values buffers with
  | nil => simp [convertAll, eq_comm]
  | cons declared arguments ih =>
      obtain ⟨value, values, rfl⟩ := List.exists_cons_of_length_eq_add_one count
      have rest : values.length = arguments.length := by simpa using count
      rw [convertAll, List.zip_cons_cons, List.forall_mem_cons, List.zipWith_cons_cons]
      cases converted : declared.convert value with
      | error fault =>
          refine iff_of_false (by simp) fun taken => ?_
          have made := Argument.convert_eq_ok_iff.mpr ⟨taken.1.1, rfl⟩
          rw [converted] at made
          cases made
      | ok buffer =>
          obtain ⟨taken, rfl⟩ := Argument.convert_eq_ok_iff.mp converted
          simp only [map_eq_ok_iff, ih rest, taken, true_and]
          constructor
          · rintro ⟨later, ⟨laterTaken, rfl⟩, rfl⟩
            exact ⟨laterTaken, rfl⟩
          · rintro ⟨laterTaken, rfl⟩
            exact ⟨_, ⟨laterTaken, rfl⟩, rfl⟩

/-- **The first argument that does not take its value** is blamed. -/
theorem convertAll_eq_error {error : CallError}
    (failed : routine.convertAll arguments values = .error error) :
    ∃ before pair after fault, arguments.zip values = before ++ pair :: after ∧
      (∀ earlier ∈ before, earlier.1.Takes earlier.2) ∧ ¬ pair.1.Takes pair.2 ∧
      error = routine.refusal (pair.1.position + 1) fault := by
  induction arguments generalizing values with
  | nil => cases failed
  | cons declared arguments ih =>
      cases values with
      | nil => cases failed
      | cons value values =>
          rw [convertAll] at failed
          cases converted : declared.convert value with
          | error fault =>
              rw [converted] at failed
              refine ⟨[], (declared, value), arguments.zip values, fault, rfl, by simp, fun taken => ?_,
                (Except.error.inj failed).symm⟩
              have made := Argument.convert_eq_ok_iff.mpr ⟨taken, rfl⟩
              rw [converted] at made
              cases made
          | ok buffer =>
              simp only [converted, map_eq_error_iff] at failed
              obtain ⟨before, pair, after, fault, split, taken, refused, rfl⟩ := ih failed
              refine ⟨(declared, value) :: before, pair, after, fault, ?_, ?_, refused, rfl⟩
              · rw [List.zip_cons_cons, split]
                rfl
              · rw [List.forall_mem_cons]
                exact ⟨(Argument.convert_eq_ok_iff.mp converted).1, taken⟩

/-! ### The second round -/

variable {lookup : String → Option Int} {calls : List (Argument × HostValue)}

/-- An argument and the buffer of the value it takes. -/
def converted (call : Argument × HostValue) : Argument × Buffer :=
  (call.1, call.1.bufferOf call.2)

/-- A value is of a shape that its argument accepts, if the shape is checked at all. -/
def Conforms (lookup : String → Option Int) (call : Argument × HostValue) : Prop :=
  call.1.isChecked → call.1.Fits lookup call.2.shape

theorem checkShape_bufferOf (lookup : String → Option Int) (call : Argument × HostValue) :
    call.1.checkShape lookup (call.1.bufferOf call.2) = .ok () ↔ call.1.Fits lookup call.2.shape :=
  checkShape_eq_ok_iff rfl

theorem zip_buffersOf (routine : Routine) (values : List HostValue) :
    routine.arguments.zip (routine.buffersOf values) =
      (routine.arguments.zip values).map converted := by
  unfold buffersOf
  induction routine.arguments generalizing values with
  | nil => rfl
  | cons declared arguments ih =>
      cases values with
      | nil => rfl
      | cons value values =>
          rw [List.zipWith_cons_cons, List.zip_cons_cons, ih]
          rfl

/-- The shapes pass exactly if all checked arguments conform. -/
theorem checkShapes_eq_ok_iff {current : Nat} :
    (∃ last, routine.checkShapes lookup current (calls.map converted) = .ok last) ↔
      ∀ call ∈ calls, Conforms lookup call := by
  induction calls generalizing current with
  | nil => simp [checkShapes]
  | cons call calls ih =>
      rw [List.forall_mem_cons, List.map_cons, converted, checkShapes]
      have here := checkShape_bufferOf lookup call
      cases isChecked : call.1.isChecked with
      | false => simp [ih, Conforms, isChecked]
      | true =>
          cases outcome : call.1.checkShape lookup (call.1.bufferOf call.2) with
          | error fault =>
              refine iff_of_false (by simp) fun conforms => ?_
              rw [here.mpr (conforms.1 isChecked)] at outcome
              cases outcome
          | ok _ =>
              have fits : Conforms lookup call := fun _ => here.mp outcome
              simp only [if_true, ih, fits, true_and]

/-- The check of shapes blames the first argument that does not conform. -/
theorem checkShapes_eq_error {current : Nat} {failure : CallFailure}
    (ascii : ∀ call ∈ calls, ∀ bound ∈ call.1.bounds, bound.IsAscii)
    (failed : routine.checkShapes lookup current (calls.map converted) = .error failure) :
    ∃ before call after fault, calls = before ++ call :: after ∧
      (∀ earlier ∈ before, Conforms lookup earlier) ∧ ¬ Conforms lookup call ∧
      failure = .refused (routine.refusal (call.1.position + 1) fault) := by
  induction calls generalizing current with
  | nil => cases failed
  | cons call calls ih =>
      rw [List.forall_mem_cons] at ascii
      rw [List.map_cons, converted, checkShapes] at failed
      have here := checkShape_bufferOf lookup call
      have later {current : Nat} (conforms : Conforms lookup call)
          (failed : routine.checkShapes lookup current (calls.map converted) = .error failure) :
          ∃ before blamed after fault, call :: calls = before ++ blamed :: after ∧
            (∀ earlier ∈ before, Conforms lookup earlier) ∧ ¬ Conforms lookup blamed ∧
            failure = .refused (routine.refusal (blamed.1.position + 1) fault) := by
        obtain ⟨before, blamed, after, fault, rfl, conform, refused, rfl⟩ := ih ascii.2 failed
        exact ⟨call :: before, blamed, after, fault, rfl, List.forall_mem_cons.mpr ⟨conforms, conform⟩,
          refused, rfl⟩
      cases isChecked : call.1.isChecked with
      | false =>
          rw [isChecked] at failed
          exact later (fun checked => by rw [isChecked] at checked; cases checked) failed
      | true =>
          rw [isChecked, if_pos rfl] at failed
          cases outcome : call.1.checkShape lookup (call.1.bufferOf call.2) with
          | ok _ =>
              rw [outcome] at failed
              exact later (fun _ => here.mp outcome) failed
          | error shapeFault =>
              obtain ⟨fault, rfl⟩ := checkShape_refused (fun bound member _ => ascii.1 bound member) outcome
              rw [outcome] at failed
              refine ⟨[], call, calls, fault, rfl, by simp, fun conforms => ?_,
                (Except.error.inj failed).symm⟩
              rw [here.mpr (conforms isChecked)] at outcome
              cases outcome

/-! ### Names in bounds -/

/-- The positions of the arguments are their places in the list. -/
def Positioned (routine : Routine) : Prop :=
  routine.arguments.map Argument.position = List.range routine.arguments.length

/-- A routine that is put together one argument after the other. -/
theorem positioned_foldl_arg {start : Routine} (none : start.arguments = []) (added : List Argument) :
    (added.foldl arg start).Positioned := by
  have step (routine : Routine) (argument : Argument) (positioned : routine.Positioned) :
      (routine.arg argument).Positioned := by
    simp only [Positioned, arg, List.map_append, List.length_append, List.length_singleton,
      List.range_succ] at positioned ⊢
    rw [positioned]
    rfl
  have run (routine : Routine) (positioned : routine.Positioned) :
      (added.foldl arg routine).Positioned := by
    induction added generalizing routine with
    | nil => exact positioned
    | cons argument added ih => exact ih _ (step routine argument positioned)
  exact run start (by simp [Positioned, none])

theorem position_of_getElem? (positioned : routine.Positioned) {place : Nat} {declared : Argument}
    (found : routine.arguments[place]? = some declared) : declared.position = place := by
  have inside : place < routine.arguments.length := (List.getElem?_eq_some_iff.mp found).1
  have here : (routine.arguments.map Argument.position)[place]? = some declared.position := by
    rw [List.getElem?_map, found]
    rfl
  rw [positioned, List.getElem?_range inside] at here
  exact (Option.some.inj here).symm

/-- **The value of a name in a bound**: of the first argument of that name if its value is a bare
number, and else of the module scalar. -/
def nameValue (routine : Routine) (scalars : String → Option Int) (values : List HostValue)
    (name : String) : Option Int :=
  (((routine.arguments.zip values).find? fun call => sameName call.1.name name).bind fun call =>
    call.2.number?).or (scalars name)

/-- Names in bounds have the values that were passed. -/
theorem valueOf_buffersOf (positioned : routine.Positioned)
    (count : values.length = routine.arguments.length) (scalars : String → Option Int) :
    routine.valueOf scalars (routine.buffersOf values) = routine.nameValue scalars values := by
  funext name
  have declared : routine.find? name =
      ((routine.arguments.zip values).find? fun call => sameName call.1.name name).map Prod.fst := by
    conv_lhs => rw [find?, ← List.map_fst_zip (Nat.le_of_eq count.symm), List.find?_map]
    rfl
  rw [valueOf, nameValue, declared]
  cases found : (routine.arguments.zip values).find? fun call => sameName call.1.name name with
  | none => rfl
  | some call =>
      obtain ⟨place, listed⟩ := List.mem_iff_getElem?.mp (List.mem_of_find?_eq_some found)
      obtain ⟨isArgument, isValue⟩ := List.getElem?_zip_eq_some.mp listed
      have buffer : (routine.buffersOf values)[call.1.position]? = some (call.1.bufferOf call.2) := by
        rw [position_of_getElem? positioned isArgument, buffersOf, List.getElem?_zipWith, isArgument,
          isValue]
      simp only [Option.map_some, Option.bind_some, buffer]
      rfl

/-! ### Calls -/

/-- **The calls that a routine accepts.** -/
structure Accepts (routine : Routine) (scalars : String → Option Int) (values : List HostValue) :
    Prop where
  count : values.length = routine.arguments.length
  takes : ∀ call ∈ routine.arguments.zip values, call.1.Takes call.2
  conforms : ∀ call ∈ routine.arguments.zip values,
    Conforms (routine.nameValue scalars values) call

/-- An argument, counted from one, is the first that does not take its value or, if all of them do,
the first whose value does not conform. -/
def BlamedOn (routine : Routine) (scalars : String → Option Int) (values : List HostValue)
    (number : Nat) : Prop :=
  ∃ before call after, routine.arguments.zip values = before ++ call :: after ∧
    number = before.length + 1 ∧
    ((∀ earlier ∈ before, earlier.1.Takes earlier.2) ∧ ¬ call.1.Takes call.2 ∨
      (∀ any ∈ routine.arguments.zip values, any.1.Takes any.2) ∧
      (∀ earlier ∈ before, Conforms (routine.nameValue scalars values) earlier) ∧
      ¬ Conforms (routine.nameValue scalars values) call)

theorem position_of_zip (positioned : routine.Positioned)
    {before after : List (Argument × HostValue)} {call : Argument × HostValue}
    (split : routine.arguments.zip values = before ++ call :: after) :
    call.1.position = before.length := by
  have listed : (routine.arguments.zip values)[before.length]? = some call := by
    rw [split]
    simp
  exact position_of_getElem? positioned (List.getElem?_zip_eq_some.mp listed).1

theorem convert_eq_ok_iff {buffers : List Buffer} : routine.convert values = .ok buffers ↔
    values.length = routine.arguments.length ∧
      (∀ call ∈ routine.arguments.zip values, call.1.Takes call.2) ∧
      buffers = routine.buffersOf values := by
  rw [convert]
  by_cases count : values.length = routine.arguments.length
  · rw [if_pos count, convertAll_eq_ok_iff count, buffersOf]
    simp [count]
  · rw [if_neg count]
    exact iff_of_false (by simp) fun accepted => count accepted.1

theorem validate_buffersOf (positioned : routine.Positioned)
    (count : values.length = routine.arguments.length) (scalars : String → Option Int) :
    routine.validate scalars (routine.buffersOf values) =
      routine.checkShapes (routine.nameValue scalars values) (routine.buffersOf values).length
        ((routine.arguments.zip values).map converted) := by
  rw [validate, valueOf_buffersOf positioned count, zip_buffersOf]

/-- **A call passes exactly if it is accepted**, and its buffers are those of its values. -/
theorem check_eq_ok_iff {scalars : String → Option Int} {buffers : List Buffer}
    (positioned : routine.Positioned) : routine.check scalars values = .ok buffers ↔
      routine.Accepts scalars values ∧ buffers = routine.buffersOf values := by
  simp only [check, bind_eq_ok_iff, mapError_eq_ok_iff, convert_eq_ok_iff]
  constructor
  · rintro ⟨_, ⟨count, taken, rfl⟩, last, validated, same⟩
    rw [validate_buffersOf positioned count] at validated
    exact ⟨⟨count, taken, checkShapes_eq_ok_iff.mp ⟨last, validated⟩⟩, (Except.ok.inj same).symm⟩
  · rintro ⟨⟨count, taken, conform⟩, rfl⟩
    obtain ⟨last, validated⟩ := checkShapes_eq_ok_iff.mpr conform
    refine ⟨_, ⟨count, taken, rfl⟩, last, ?_, rfl⟩
    rw [validate_buffersOf positioned count]
    exact validated

/-- Where the count is right, a refused call is blamed on one of the arguments. -/
theorem blamedOn_of_check_eq_error {scalars : String → Option Int} {failure : CallFailure}
    (positioned : routine.Positioned)
    (ascii : ∀ declared ∈ routine.arguments, ∀ bound ∈ declared.bounds, bound.IsAscii)
    (count : values.length = routine.arguments.length)
    (failed : routine.check scalars values = .error failure) :
    ∃ number fault, routine.BlamedOn scalars values number ∧
      failure = .refused (routine.refusal number fault) := by
  rcases bind_eq_error_iff.mp failed with notConverted | ⟨buffers, isConverted, failed⟩
  · obtain ⟨error, stopped, rfl⟩ := mapError_eq_error_iff.mp notConverted
    rw [convert, if_pos count] at stopped
    obtain ⟨before, call, after, fault, split, taken, refused, rfl⟩ := convertAll_eq_error stopped
    refine ⟨_, fault, ⟨before, call, after, split, rfl, .inl ⟨taken, refused⟩⟩, ?_⟩
    rw [position_of_zip positioned split]
  · obtain ⟨-, taken, rfl⟩ := convert_eq_ok_iff.mp (mapError_eq_ok_iff.mp isConverted)
    rcases bind_eq_error_iff.mp failed with notValidated | ⟨_, -, done⟩
    · rw [validate_buffersOf positioned count] at notValidated
      obtain ⟨before, call, after, fault, split, conform, refused, rfl⟩ :=
        checkShapes_eq_error (fun call listed => ascii call.1 (List.of_mem_zip listed).1) notValidated
      refine ⟨_, fault, ⟨before, call, after, split, rfl, .inr ⟨taken, conform, refused⟩⟩, ?_⟩
      rw [position_of_zip positioned split]
    · cases done

/-- **Exactly the calls that a routine accepts go through**, with the buffers of their values. Any
other call is refused: for its number of arguments, or on account of the argument that is to blame. -/
theorem check_exact {routine : Routine} {scalars : String → Option Int} {values : List HostValue}
    (positioned : routine.Positioned) :
    (∀ buffers, routine.check scalars values = .ok buffers ↔
      routine.Accepts scalars values ∧ buffers = routine.buffersOf values) ∧
    (values.length ≠ routine.arguments.length → routine.check scalars values =
      .error (.refused (routine.refusal 0
        (.argumentCount routine.arguments.length values.length)))) ∧
    ((∀ declared ∈ routine.arguments, ∀ bound ∈ declared.bounds, bound.IsAscii) →
      values.length = routine.arguments.length → ¬ routine.Accepts scalars values →
      ∃ number fault, routine.BlamedOn scalars values number ∧
        routine.check scalars values = .error (.refused (routine.refusal number fault))) := by
  refine ⟨fun buffers => check_eq_ok_iff positioned, fun miscounted => ?_, fun ascii count refused => ?_⟩
  · rw [check, convert, if_neg miscounted]
    rfl
  · cases outcome : routine.check scalars values with
    | ok buffers => exact absurd ((check_eq_ok_iff positioned).mp outcome).1 refused
    | error failure =>
        obtain ⟨number, fault, blamed, rfl⟩ :=
          blamedOn_of_check_eq_error positioned ascii count outcome
        exact ⟨number, fault, blamed, rfl⟩

/-- A matrix that a later argument and a module scalar size, and a record. -/
def smooth : Routine :=
  [{ name := "y", type := .real, bounds := [⟨"1", "n+1"⟩, ⟨"0", "kmax - 1"⟩] },
    { name := "n", type := .integer },
    { name := "p", type := .record "particle" }].foldl arg (subroutine "smooth")

/-- The values of a call of `smooth` with a matrix of a shape. -/
def smoothCall (shape : List Nat) : List HostValue :=
  [.array .real shape, .int 3, .record "particle"]

/-- The module scalar that sizes the matrix. -/
def smoothScalars (name : String) : Option Int :=
  if name = "kmax" then some 2 else none

/-- The matrix has two columns by the module scalar, and three are blamed on it. -/
theorem check_exact_smooth :
    smooth.Positioned ∧ smooth.Accepts smoothScalars (smoothCall [4, 2]) ∧
    ¬ smooth.Accepts smoothScalars (smoothCall [4, 3]) ∧
    ∃ number fault, smooth.BlamedOn smoothScalars (smoothCall [4, 3]) number ∧
      smooth.check smoothScalars (smoothCall [4, 3]) =
        .error (.refused (smooth.refusal number fault)) := by
  have positioned : smooth.Positioned := positioned_foldl_arg rfl _
  have accepted : smooth.check smoothScalars (smoothCall [4, 2]) =
      .ok (smooth.buffersOf (smoothCall [4, 2])) := by decide +kernel
  have refused : smooth.check smoothScalars (smoothCall [4, 3]) =
      .error (.refused (smooth.refusal 1 (.wrongDimension 2))) := by decide +kernel
  have notAccepted : ¬ smooth.Accepts smoothScalars (smoothCall [4, 3]) := by
    intro accepts
    have passed := ((check_exact positioned).1 _).mpr ⟨accepts, rfl⟩
    rw [refused] at passed
    cases passed
  have ascii : ∀ declared ∈ smooth.arguments, ∀ bound ∈ declared.bounds,
      bound.IsAscii := by
    unfold Bound.IsAscii
    decide +kernel
  exact ⟨positioned, (((check_exact positioned).1 _).mp accepted).1, notAccepted,
    (check_exact positioned).2.2 ascii rfl notAccepted⟩

/-- A vector whose lower bound is one and whose upper bound is the least word. -/
def backward : Routine :=
  (subroutine "backward").arg
    { name := "x", type := .integer, bounds := [⟨"1", "-9223372036854775807-1"⟩] }

/-- **The distance of the bounds has to be a word as well as the extent.** The argument takes the
value, the bounds have values and the extent is the least word, and a bare value does for a vector of
any extent; but the distance of the bounds is not a word, and the call is refused. -/
theorem check_backward_refused :
    backward.Positioned ∧ [HostValue.int 5].length = backward.arguments.length ∧
    (∀ declared ∈ backward.arguments, declared.Takes (.int 5) ∧ declared.rank = 1 ∧
      (declared.bufferOf (.int 5)).rank = 0 ∧
      declared.bounds = [⟨"1", "-9223372036854775807-1"⟩]) ∧
    evaluate "-9223372036854775807-1" (fun _ => none) = .ok (-0x8000000000000000) ∧
    evaluate "1" (fun _ => none) = .ok 1 ∧ fitsWord (-0x8000000000000000 - 1 + 1) ∧
    backward.check (fun _ => none) [.int 5] =
      .error (.refused (backward.refusal 1 .conversion)) := by
  refine ⟨positioned_foldl_arg rfl [_], rfl, ?_, by decide +kernel⟩
  intro declared member
  rw [List.mem_singleton.mp member]
  exact ⟨⟨.integer, _, _, rfl, rfl, rfl, Nat.le_refl _⟩, rfl, rfl, rfl⟩

end Routine

end ForeignGlue
