/-
**Statements laid out in text.**

Generated functions are put together from chunks of text, each of which is a number of whole
statements. `Writes` says which statements C reads in a chunk, whatever chunk follows, and `Defines`
which functions. `WritesLines` and `DefinesItems` say it of lines and items that are still to be
joined, if none of them failed.

* `Writes.append`, `Writes.flatMap`, `Writes.conditional`: chunks from smaller ones.
* `WritesLines.conditional`, `DefinesItems.function`: the same for lines and items.
* `Writes.spellsCode`, `DefinesItems.spells`: what is written is spelled.
* `Finds`, `Overlooks`: what any reader of single lines finds in lines that are still to be joined.
* `Code.Adds`: statements that only add stores, with a rule for each kind of statement.
* `callAmong_of_mem`: a call of one among functions with different names.
-/

import ForeignGlue.Proofs.CSource.Bounds
import ForeignGlue.Proofs.CSource.Execution

namespace ForeignGlue.CSource

open ForeignGlue.Source

/-! ### Chunks of statements -/

/-- Several statements as one. -/
def Code.ofList (codes : List Code) : Code :=
  codes.foldr .followed .nothing

/-- **A chunk of text, and the statements that C reads in it.** -/
def Writes (chars : List Char) (codes : List Code) : Prop :=
  ∃ ts, Closed chars ts ∧ ∀ rest more after, ReadsCode .statements rest more after →
    ReadsCode .statements (ts ++ rest) (codes.foldr .followed more) after

namespace Writes

variable {cs ds : List Char} {codes others : List Code}

/-- A chunk without terminals. -/
theorem blank (closed : Closed cs []) : Writes cs [] :=
  ⟨[], closed, fun _ _ _ read => read⟩

/-- The statements of two chunks follow each other. -/
theorem append (first : Writes cs codes) (second : Writes ds others) :
    Writes (cs ++ ds) (codes ++ others) := by
  obtain ⟨ts, closed, read⟩ := first
  obtain ⟨us, closedToo, readToo⟩ := second
  refine ⟨ts ++ us, closed.append closedToo, fun rest more after later => ?_⟩
  rw [List.append_assoc, List.foldr_append]
  exact read _ _ _ (readToo rest more after later)

/-- Chunks for the items of a list, one after the other. -/
theorem flatMap {α : Type} {items : List α} {chars : α → List Char} {codesOf : α → List Code}
    (each : ∀ item ∈ items, Writes (chars item) (codesOf item)) :
    Writes (items.flatMap chars) (items.flatMap codesOf) := by
  induction items with
  | nil => exact blank Closed.nil
  | cons item items ih =>
      rw [List.flatMap_cons, List.flatMap_cons]
      exact (each item List.mem_cons_self).append
        (ih fun other member => each other (List.mem_cons_of_mem _ member))

/-- One statement. -/
theorem single {ts : List Terminal} {code : Code} (closed : Closed cs ts)
    (read : ∀ rest, ReadsCode .statement (ts ++ rest) code rest) : Writes cs [code] :=
  ⟨ts, closed, fun rest _ _ later => .followed (read rest) later⟩

/-- The statements of a chunk up to a closing brace. -/
theorem readsCode (writes : Writes cs codes) : ∃ ts, Closed cs ts ∧ ∀ rest,
    ReadsCode .statements (ts ++ .mark .closingBrace :: rest) (.ofList codes)
      (.mark .closingBrace :: rest) := by
  obtain ⟨ts, closed, read⟩ := writes
  exact ⟨ts, closed, fun rest => read _ _ _ .nothing⟩

/-- A condition with a block. -/
theorem conditional {lead body tail : List Char} {x : Expr}
    (opens : Closed lead [.ifWord, .mark .opening]) (condition : Encloses cs x)
    (inner : Writes body codes) (closes : Closed tail [.mark .closingBrace]) :
    Writes (lead ++ ((cs ++ [')']) ++ (" \x7b\n".toList ++ (body ++ tail))))
      [.conditional x (.block (.ofList codes))] := by
  obtain ⟨ts, closed, read⟩ := condition
  obtain ⟨us, closedToo, readToo⟩ := inner.readsCode
  have brace : Closed " \x7b\n".toList [.mark .openingBrace] := closed_of_settled (by decide)
  refine single (opens.append (closed.append (brace.append (closedToo.append closes)))) fun rest => ?_
  simp only [List.append_assoc, List.cons_append, List.nil_append]
  exact .conditional (read _) (.block (readToo rest))

theorem spellsCode {text : String} (writes : Writes text.toList codes) :
    SpellsCode text (.ofList codes) := by
  obtain ⟨ts, closed, read⟩ := writes.readsCode
  exact ⟨ts, closed.terminals_eq, read []⟩

end Writes

/-- An assignment, its value being closed by a semicolon. -/
theorem ReadsAt.assign {ts us : List Terminal} {x y : Expr} (target : ReadsAt .unary ts x)
    (value : ReadsAt .unary us y) (rest : List Terminal) :
    ReadsCode .statement (ts ++ .mark .assign :: (us ++ .mark .semicolon :: rest)) (.assign x y)
      rest := by
  have left : Reads (.expression 0) _ x (.mark .assign :: (us ++ .mark .semicolon :: rest)) :=
    .expression (target _ rfl) (.operatorsEnd rfl)
  have right : Reads (.expression 0) _ y (.mark .semicolon :: rest) :=
    .expression (value _ rfl) (.operatorsEnd rfl)
  exact .assign left right

/-! ### Functions in a file -/

/-- **A chunk of a file, and the functions that it defines.** -/
def Defines (chars : List Char) (unit : List Function) : Prop :=
  ∃ ts, Closed chars ts ∧ ∀ rest others, ReadsUnit rest others → ReadsUnit (ts ++ rest) (unit ++ others)

namespace Defines

variable {cs ds : List Char} {unit others : List Function}

theorem blank (closed : Closed cs []) : Defines cs [] :=
  ⟨[], closed, fun _ _ read => read⟩

/-- The functions of two chunks follow each other. -/
theorem append (first : Defines cs unit) (second : Defines ds others) :
    Defines (cs ++ ds) (unit ++ others) := by
  obtain ⟨ts, closed, read⟩ := first
  obtain ⟨us, closedToo, readToo⟩ := second
  refine ⟨ts ++ us, closed.append closedToo, fun rest more later => ?_⟩
  rw [List.append_assoc, List.append_assoc]
  exact read _ _ (readToo rest more later)

/-- All functions of a file. -/
theorem spells {text : String} (defines : Defines text.toList unit) : Spells text unit := by
  obtain ⟨ts, closed, read⟩ := defines
  have whole := read [] [] .nothing
  rw [List.append_nil, List.append_nil] at whole
  exact ⟨ts, closed.terminals_eq, whole⟩

end Defines

/-- A function with its braces on lines of their own. -/
theorem Writes.defines {lead parameters body : List Char} {codes : List Code} {ts us : List Terminal}
    {name : String} {names : List String} (writes : Writes body codes) (free : IsFree name.toList)
    (leads : Closed lead ts)
    (result : ∀ rest unit, ReadsUnit (.typeName "void" :: rest) unit → ReadsUnit (ts ++ rest) unit)
    (takes : Closed ('(' :: parameters) (.mark .opening :: us))
    (read : ∀ rest, ReadsParameters (us ++ rest) names rest) :
    Defines (lead ++ ((name.toList ++ '(' :: parameters) ++ ("\n\x7b\n".toList ++
      (body ++ "\x7d\n".toList)))) [⟨name, names, .ofList codes⟩] := by
  obtain ⟨vs, closed, statements⟩ := writes.readsCode
  have opens : Closed "\n\x7b\n".toList [.mark .openingBrace] := closed_of_settled (by decide)
  have closes : Closed "\x7d\n".toList [.mark .closingBrace] := closed_of_settled (by decide)
  have head := takes.word free rfl
  refine ⟨_, leads.append (head.append (opens.append (closed.append closes))), fun rest others later => ?_⟩
  simp only [List.append_assoc, List.cons_append, List.nil_append]
  exact result _ _ (.function (read _) (.block (statements rest)) later)

/-! ### Lines -/

/-- The characters of lines with their ends. -/
def lineChars (lines : List String) : List Char :=
  lines.flatMap fun line => line.toList ++ ['\n']

theorem lineChars_append (first second : List String) :
    lineChars (first ++ second) = lineChars first ++ lineChars second :=
  List.flatMap_append

theorem ofList_injective {lines others : List String}
    (same : Draft.ofList lines = Draft.ofList others) : lines = others :=
  List.map_injective_iff.mpr (fun _ _ => Except.ok.inj) same

/-- The text of a draft is that of its parts. -/
theorem finish_append_eq_ok {first second : Draft String} {text : String}
    (done : (first ++ second).finish = .ok text) :
    ∃ start rest, first.finish = .ok start ∧ second.finish = .ok rest ∧ text = start ++ rest := by
  obtain ⟨texts, spelled, rfl⟩ := Draft.finish_eq_ok_iff.mp done
  obtain ⟨before, after, rfl, isFirst, isSecond⟩ := List.append_eq_map_iff.mp spelled
  exact ⟨String.join before, String.join after, Draft.finish_eq_ok_iff.mpr ⟨before, isFirst.symm, rfl⟩,
    Draft.finish_eq_ok_iff.mpr ⟨after, isSecond.symm, rfl⟩, String.join_append⟩

/-- The characters of a finished text are those of its lines, none of which failed. -/
theorem toList_finish_endLines {draft : Draft String} {text : String}
    (done : (endLines draft).finish = .ok text) :
    ∃ lines, draft = .ofList lines ∧ text.toList = lineChars lines := by
  obtain ⟨texts, spelled, rfl⟩ := Draft.finish_eq_ok_iff.mp done
  clear done
  induction draft generalizing texts with
  | nil =>
      cases texts with
      | nil => exact ⟨[], rfl, rfl⟩
      | cons first texts => cases spelled
  | cons piece draft ih =>
      cases texts with
      | nil => cases spelled
      | cons first texts =>
          obtain ⟨here, later⟩ := List.cons.inj spelled
          obtain ⟨line, rfl, rfl⟩ := map_eq_ok_iff.mp here
          obtain ⟨lines, rfl, joined⟩ := ih texts later
          refine ⟨line :: lines, rfl, ?_⟩
          rw [String.join_cons, String.toList_append, joined, String.toList_append]
          rfl

/-- **What a reader finds in lines that may have failed**, if none did: the spellings of `items`, in
order. -/
def Finds {α β : Type} (read : String → Option α) (spell : β → α) (draft : Draft String)
    (items : List β) : Prop :=
  ∀ lines, draft = .ofList lines → lines.filterMap read = items.map spell

/-- A start of lines in which a reader finds nothing, however they go on. -/
def Overlooks {α : Type} (read : String → Option α) (start : String) : Prop :=
  ∀ rest, read (start ++ rest) = none

section Readers

variable {α β : Type} {read : String → Option α} {spell : β → α} {first second : Draft String}
  {items others : List β} {lines : List String} {start : String}

/-- A longer start. -/
theorem Overlooks.append (overlooks : Overlooks read start) (more : String) :
    Overlooks read (start ++ more) := by
  intro rest
  rw [String.append_assoc]
  exact overlooks (more ++ rest)

theorem Overlooks.line (overlooks : Overlooks read start) : read start = none := by
  have whole := overlooks ""
  rwa [String.append_empty] at whole

namespace Finds

theorem ofList (found : lines.filterMap read = items.map spell) :
    Finds read spell (.ofList lines) items := by
  intro others spelled
  obtain rfl := ofList_injective spelled
  exact found

/-- What is found in two drafts. -/
theorem append (finds : Finds read spell first items) (findsToo : Finds read spell second others) :
    Finds read spell (first ++ second) (items ++ others) := by
  intro lines spelled
  obtain ⟨before, after, rfl, rfl, rfl⟩ := List.append_eq_map_iff.mp spelled
  rw [List.filterMap_append, finds before rfl, findsToo after rfl, List.map_append]

theorem nothing (each : ∀ line ∈ lines, read line = none) : Finds read spell (.ofList lines) [] :=
  ofList (List.filterMap_eq_nil_iff.mpr each)

/-- Lines in which nothing is found, and others after them. -/
theorem nothingThen (each : ∀ line ∈ lines, read line = none) (finds : Finds read spell second items) :
    Finds read spell (.ofList lines ++ second) items :=
  (nothing each).append finds

/-- Lines, and others after them in which nothing is found. -/
theorem thenNothing (finds : Finds read spell first items) (each : ∀ line ∈ lines, read line = none) :
    Finds read spell (first ++ .ofList lines) items := by
  have both := finds.append (nothing each)
  rwa [List.append_nil] at both

/-- Of lines that failed anything can be said. -/
theorem failed {error : GenerationError} : Finds read spell [.error error] items := by
  intro lines spelled
  cases lines <;> cases spelled

/-- Drafts for the items of a list. -/
theorem flatMap {ι : Type} {list : List ι} {draft : ι → Draft String} {itemsAt : ι → List β}
    (each : ∀ i ∈ list, Finds read spell (draft i) (itemsAt i)) :
    Finds read spell (list.flatMap draft) (list.flatMap itemsAt) := by
  induction list with
  | nil => exact nothing (List.forall_mem_nil _)
  | cons i list ih =>
      obtain ⟨here, later⟩ := List.forall_mem_cons.mp each
      rw [List.flatMap_cons, List.flatMap_cons]
      exact here.append (ih later)

end Finds

end Readers

/-- **Lines that may have failed, and the statements that C reads in them if none did.** -/
def WritesLines (draft : Draft String) (codes : List Code) : Prop :=
  ∀ lines, draft = .ofList lines → Writes (lineChars lines) codes

namespace WritesLines

variable {first second : Draft String} {codes others : List Code}

theorem ofList {lines : List String} (writes : Writes (lineChars lines) codes) :
    WritesLines (.ofList lines) codes := by
  intro other same
  rwa [← ofList_injective same]

/-- Lines, and more lines. -/
theorem append (writes : WritesLines first codes) (writesToo : WritesLines second others) :
    WritesLines (first ++ second) (codes ++ others) := by
  intro lines spelled
  obtain ⟨before, after, rfl, rfl, rfl⟩ := List.append_eq_map_iff.mp spelled
  rw [lineChars_append]
  exact (writes before rfl).append (writesToo after rfl)

theorem flatMap {α : Type} {items : List α} {draft : α → Draft String} {codesOf : α → List Code}
    (each : ∀ item ∈ items, WritesLines (draft item) (codesOf item)) :
    WritesLines (items.flatMap draft) (items.flatMap codesOf) := by
  induction items with
  | nil =>
      have nothing : Writes (lineChars []) [] := .blank Closed.nil
      exact ofList nothing
  | cons item items ih =>
      rw [List.flatMap_cons, List.flatMap_cons]
      exact (each item List.mem_cons_self).append
        (ih fun other member => each other (List.mem_cons_of_mem _ member))

/-- A condition, with its block on lines of their own. -/
theorem conditional {lead condition close : String} {x : Expr}
    (opens : Closed lead.toList [.ifWord, .mark .opening]) (holds : Encloses condition.toList x)
    (inner : WritesLines first codes)
    (closes : Closed (close.toList ++ ['\n']) [.mark .closingBrace]) :
    WritesLines (.ok (lead ++ condition ++ ") \x7b") :: first ++ [.ok close])
      [.conditional x (.block (.ofList codes))] := by
  intro lines spelled
  obtain ⟨before, after, rfl, opening, closing⟩ := List.append_eq_map_iff.mp spelled
  cases before with
  | nil => cases opening
  | cons head body =>
      obtain ⟨sameHead, sameBody⟩ := List.cons.inj opening
      obtain rfl := Except.ok.inj sameHead
      obtain rfl : after = [close] := ofList_injective closing
      have whole := Writes.conditional opens holds (inner body sameBody.symm) closes
      convert whole using 1
      simp [lineChars]

/-- A block between braces on lines of their own. -/
theorem block {lead close : String} (opens : Closed (lead.toList ++ ['\n']) [.mark .openingBrace])
    (inner : WritesLines first codes)
    (closes : Closed (close.toList ++ ['\n']) [.mark .closingBrace]) :
    WritesLines (.ok lead :: first ++ [.ok close]) [.block (.ofList codes)] := by
  intro lines spelled
  obtain ⟨before, after, rfl, opening, closing⟩ := List.append_eq_map_iff.mp spelled
  cases before with
  | nil => cases opening
  | cons head body =>
      obtain ⟨sameHead, sameBody⟩ := List.cons.inj opening
      obtain rfl := Except.ok.inj sameHead
      obtain rfl : after = [close] := ofList_injective closing
      obtain ⟨ts, closed, read⟩ := (inner body sameBody.symm).readsCode
      have whole := Writes.single (opens.append (closed.append closes)) fun rest => by
        simpa using ReadsCode.block (read rest)
      convert whole using 1
      simp [lineChars]

end WritesLines

/-- **Items of a file, and the functions that they define if no line failed.** -/
def DefinesItems (items : List Item) (unit : List Function) : Prop :=
  ∀ lines, items.flatMap Item.lines = Draft.ofList lines → Defines (lineChars lines) unit

namespace DefinesItems

variable {first second : List Item} {unit others : List Function}

/-- Items, and more items. -/
theorem append (defines : DefinesItems first unit) (definesToo : DefinesItems second others) :
    DefinesItems (first ++ second) (unit ++ others) := by
  intro lines spelled
  rw [List.flatMap_append] at spelled
  obtain ⟨before, after, rfl, same, sameToo⟩ := List.append_eq_map_iff.mp spelled
  rw [lineChars_append]
  exact (defines before same.symm).append (definesToo after sameToo.symm)

theorem map {α : Type} {sources : List α} {item : α → Item} {function : α → Function}
    (each : ∀ source ∈ sources, DefinesItems [item source] [function source]) :
    DefinesItems (sources.map item) (sources.map function) := by
  induction sources with
  | nil =>
      intro lines spelled
      cases lines with
      | nil => exact .blank Closed.nil
      | cons line lines => cases spelled
  | cons source sources ih =>
      have rest := ih fun other member => each other (List.mem_cons_of_mem _ member)
      exact (each source List.mem_cons_self).append rest

/-- A line with nothing on it. -/
theorem emptyLine : DefinesItems [.line ""] [] := by
  intro lines spelled
  obtain rfl : [""] = lines := ofList_injective spelled
  have newLine : Closed "\n".toList [] := closed_of_settled (by decide)
  exact .blank newLine

/-- A function with its braces on lines of their own. -/
theorem function {lead name tail : String} {names : List String} {body : Draft String}
    {codes : List Code} {ts us : List Terminal} (writes : WritesLines body codes)
    (free : IsFree name.toList) (leads : Closed lead.toList ts)
    (result : ∀ rest unit, ReadsUnit (.typeName "void" :: rest) unit → ReadsUnit (ts ++ rest) unit)
    (opens : tail.toList.head? = some '(') (takes : Closed tail.toList (.mark .opening :: us))
    (read : ∀ rest, ReadsParameters (us ++ rest) names rest) :
    DefinesItems [.definition ⟨lead, name, tail, braced body⟩]
      [⟨name, names, .ofList codes⟩] := by
  intro lines spelled
  rw [List.flatMap_singleton] at spelled
  have shape : (.ok (lead ++ name ++ tail) :: .ok "\x7b" :: body) ++ [.ok "\x7d"] =
      Draft.ofList lines := spelled
  obtain ⟨parameters, spelledTail⟩ := List.head?_eq_some_iff.mp opens
  rw [spelledTail] at takes
  obtain ⟨before, after, rfl, opening, closing⟩ := List.append_eq_map_iff.mp shape
  match before, opening with
  | head :: brace :: inner, opening =>
      obtain ⟨sameHead, opening⟩ := List.cons.inj opening
      obtain ⟨sameBrace, sameBody⟩ := List.cons.inj opening
      obtain rfl := Except.ok.inj sameHead
      obtain rfl := Except.ok.inj sameBrace
      obtain rfl : after = ["\x7d"] := ofList_injective closing
      have whole := (writes inner sameBody.symm).defines free leads result takes read
      convert whole using 1
      simp [lineChars, spelledTail]

end DefinesItems

/-- **The finished text of items defines their functions.** -/
theorem DefinesItems.spells {items : List Item} {unit : List Function} {text : String}
    (defines : DefinesItems items unit) (done : (layOutItems items).finish = .ok text) :
    Spells text unit := by
  obtain ⟨lines, spelled, same⟩ := toList_finish_endLines done
  have whole := defines lines spelled
  rw [← same] at whole
  exact whole.spells

/-! ### Running a list of statements -/

/-- Statements before others: the others run if the first ones neither fail nor jump. -/
theorem Code.run_foldr {world : World} {callees : Callees} (codes : List Code) (more : Code)
    (state : State) :
    (codes.foldr .followed more).run world callees state =
      match (Code.ofList codes).run world callees state with
      | some (.next, after) => more.run world callees after
      | other => other := by
  induction codes generalizing state with
  | nil => rfl
  | cons code codes ih =>
      show (match code.run world callees state with
        | some (.next, after) => (codes.foldr .followed more).run world callees after
        | other => other) = match (match code.run world callees state with
          | some (.next, after) => (Code.ofList codes).run world callees after
          | other => other) with
        | some (.next, after) => more.run world callees after
        | other => other
      cases code.run world callees state with
      | none => rfl
      | some outcome =>
          obtain ⟨exit, after⟩ := outcome
          cases exit with
          | next => exact ih after
          | jump label => rfl

theorem Code.run_singleton {world : World} {callees : Callees} (code : Code) (state : State) :
    (Code.ofList [code]).run world callees state = code.run world callees state := by
  show (match code.run world callees state with
    | some (.next, after) => some (Exit.next, after)
    | other => other) = _
  cases code.run world callees state with
  | none => rfl
  | some outcome =>
      obtain ⟨exit, after⟩ := outcome
      cases exit with
      | next => rfl
      | jump label => rfl

/-- Statements that end where they end run into those after them. -/
theorem Code.run_append_of_next {world : World} {callees : Callees} {codes : List Code}
    {state after : State} (ran : (Code.ofList codes).run world callees state = some (.next, after))
    (others : List Code) :
    (Code.ofList (codes ++ others)).run world callees state =
      (Code.ofList others).run world callees after := by
  rw [Code.ofList, List.foldr_append, Code.run_foldr, ran]
  rfl

/-- Statements that jump leave out those after them. -/
theorem Code.run_append_of_jump {world : World} {callees : Callees} {codes : List Code}
    {state after : State} {label : String}
    (ran : (Code.ofList codes).run world callees state = some (.jump label, after))
    (others : List Code) :
    (Code.ofList (codes ++ others)).run world callees state = some (.jump label, after) := by
  rw [Code.ofList, List.foldr_append, Code.run_foldr, ran]

/-! ### Statements that only add stores -/

/-- **What statements add to the stores**, if they change no variable and do not jump. -/
def Code.Adds (world : World) (callees : Callees) (locals : Locals) (code : Code)
    (stores : List Store) : Prop :=
  ∀ before, code.run world callees ⟨locals, before⟩ = some (.next, ⟨locals, before ++ stores⟩)

namespace Code.Adds

variable {world : World} {callees : Callees} {locals : Locals}

theorem nothing : Code.nothing.Adds world callees locals [] := by
  intro before
  rw [List.append_nil]
  rfl

/-- The stores of two statements follow each other. -/
theorem followed {first rest : Code} {stores more : List Store}
    (adds : first.Adds world callees locals stores)
    (addsToo : rest.Adds world callees locals more) :
    (Code.followed first rest).Adds world callees locals (stores ++ more) := by
  intro before
  rw [Code.run, adds before]
  show rest.run world callees _ = _
  rw [addsToo, List.append_assoc]

theorem append {codes others : List Code} {stores more : List Store}
    (adds : (Code.ofList codes).Adds world callees locals stores)
    (addsToo : (Code.ofList others).Adds world callees locals more) :
    (Code.ofList (codes ++ others)).Adds world callees locals (stores ++ more) := by
  intro before
  rw [Code.ofList, List.foldr_append, Code.run_foldr, adds before]
  show (Code.ofList others).run world callees _ = _
  rw [addsToo, List.append_assoc]

/-- Statements for the items of a list, one after the other. -/
theorem flatMap {α : Type} {items : List α} {codes : α → List Code} {stores : α → List Store}
    (each : ∀ item ∈ items,
      (Code.ofList (codes item)).Adds world callees locals (stores item)) :
    (Code.ofList (items.flatMap codes)).Adds world callees locals (items.flatMap stores) := by
  induction items with
  | nil => exact nothing
  | cons item items ih =>
      have first := each item List.mem_cons_self
      have rest := ih fun other member => each other (List.mem_cons_of_mem _ member)
      rw [List.flatMap_cons, List.flatMap_cons]
      exact first.append rest

/-- A condition that does not hold adds nothing. -/
theorem conditional {condition : Expr} {body : Code} {stores : List Store} {holds : Bool}
    (truth : condition.truth? world locals = some holds)
    (adds : body.Adds world callees locals stores) :
    (Code.conditional condition body).Adds world callees locals
      (if holds then stores else []) := by
  intro before
  have here : condition.truth? world (State.mk locals before).locals = some holds := truth
  rw [Code.run, here]
  cases holds with
  | true => exact adds before
  | false => rw [if_neg Bool.false_ne_true, List.append_nil]

/-- A store into an element of a table. -/
theorem assign {array index value : Expr} :
    (Code.assign (.element array index) value).Adds world callees locals
      [⟨.element array index, value⟩] :=
  fun _ => rfl

theorem single {code : Code} {stores : List Store} (adds : code.Adds world callees locals stores) :
    (Code.ofList [code]).Adds world callees locals stores := by
  have whole := adds.followed nothing
  rwa [List.append_nil] at whole

/-- A call of a function. -/
theorem perform {label : String} {passed : Expr} {values : List Value} {stores : List Store}
    (other : label ≠ "sprintf") (given : passed.arguments? locals = some values)
    (called : callees label values = some stores) :
    (Code.perform (.call (.name label) passed)).Adds world callees locals stores := by
  intro before
  have effect : performCall callees (.name label) passed ⟨locals, before⟩ =
      some ⟨locals, before ++ stores⟩ := by
    rw [performCall.eq_2 _ _ _ _ fun _ _ _ isSprintf => other isSprintf, given]
    show (callees label values).bind _ = _
    rw [called]
    rfl
  rw [Code.run, effect]
  rfl

theorem block {body : Code} {stores : List Store} (adds : body.Adds world callees locals stores) :
    (Code.block body).Adds world callees locals stores :=
  adds

end Code.Adds

/-! ### Calls -/

/-- A call of the last function of a file. -/
theorem callAmong_head {world : World} {functions : List Function} {function : Function}
    {values : List Value} {stores : List Store} (arity : function.parameters.length = values.length)
    (adds : function.body.Adds world (callAmong world functions) (function.bind values) stores) :
    callAmong world (function :: functions) function.name values = some stores := by
  rw [callAmong, if_pos rfl, if_pos arity, adds]
  rfl

/-- **A call of one among functions with different names**, which calls none of the others. -/
theorem callAmong_of_mem {world : World} {functions : List Function} {function : Function}
    {values : List Value} {stores : List Store} (distinct : (functions.map Function.name).Nodup)
    (member : function ∈ functions) (arity : function.parameters.length = values.length)
    (adds : ∀ callees, function.body.Adds world callees (function.bind values) stores) :
    callAmong world functions function.name values = some stores := by
  induction functions with
  | nil => cases member
  | cons first functions ih =>
      rw [List.map_cons, List.nodup_cons] at distinct
      by_cases same : function = first
      · subst same
        exact callAmong_head arity (adds _)
      · have later : function ∈ functions := (List.mem_cons.mp member).resolve_left same
        have other : first.name ≠ function.name := by
          intro equal
          rw [equal] at distinct
          exact distinct.1 (List.mem_map_of_mem later)
        rw [callAmong, if_neg other]
        exact ih distinct.2 later

end ForeignGlue.CSource
