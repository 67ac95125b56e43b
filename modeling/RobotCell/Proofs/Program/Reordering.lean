import Mathlib.Data.List.Perm.Basic
import RobotCell.Proofs.Program.Printable
import RobotCell.Proofs.Program.RoundTrip

/-!
# Programs with another order of calls

The loop of a program may be edited as a text: its lines are put into another order. The project
takes its links from the edited text, and the program of the project with these links is the edited
text. The argument has two halves. In the text, the lines of the loop are found without reading it
as a script, and the other lines do not depend on the calls. In the project, the links of a program
give that program again.

## Main definitions

- `HasLines` — a text that consists of whole lines
- `loopLines`, `withLoopLines` — the lines in the loop of a text, and the text with others there

## Main results

- `exists_recover_program_of_isCalledBy` — a project has the program that it takes its links from
- `program_withLoopLines` — the same for a program whose loop is put into another order
-/

namespace RobotCell

open Script

/-! ### Lines of a text -/

/-- The text consists of the given lines, whatever follows it. -/
def HasLines (text : String) (lines : List String) : Prop :=
  ∀ rest, Text.splitAtChar '\n' (text ++ rest) = lines ++ Text.splitAtChar '\n' rest

theorem hasLines_empty : HasLines "" [] := by
  intro rest
  rw [String.empty_append, List.nil_append]

theorem HasLines.append {text text' : String} {lines lines' : List String}
    (h : HasLines text lines) (h' : HasLines text' lines') :
    HasLines (text ++ text') (lines ++ lines') := by
  intro rest
  rw [String.append_assoc, h, h', List.append_assoc]

theorem HasLines.splitAtChar_eq {text : String} {lines : List String} (h : HasLines text lines) :
    Text.splitAtChar '\n' text = lines ++ [""] := by
  have := h ""
  rwa [String.append_empty] at this

/-- The text has no line break in it. -/
def IsOneLine (text : String) : Prop :=
  '\n' ∉ text.toList

instance (text : String) : Decidable (IsOneLine text) :=
  inferInstanceAs (Decidable ('\n' ∉ text.toList))

theorem isOneLine_append_iff {s t : String} :
    IsOneLine (s ++ t) ↔ IsOneLine s ∧ IsOneLine t := by
  rw [IsOneLine, String.toList_append, List.mem_append, not_or]
  rfl

theorem IsOneLine.hasLines {text : String} (h : IsOneLine text) : HasLines (text ++ "\n") [text] :=
  Text.splitAtChar_append_of_notMem h

theorem isOneLine_indentation (depth : Nat) : IsOneLine (indentation depth) := by
  simp [IsOneLine, indentation]

theorem hasLines_join {lines : List String} (h : ∀ l ∈ lines, IsOneLine l) :
    HasLines (String.join (lines.map (· ++ "\n"))) lines := by
  induction lines with
  | nil => exact hasLines_empty
  | cons l lines ih =>
    rw [List.forall_mem_cons] at h
    rw [List.map_cons, String.join_cons]
    exact h.1.hasLines.append (ih h.2)

theorem hasLines_lines {α : Type} {text : α → String} {items : List α}
    (h : ∀ a ∈ items, IsOneLine (text a)) (depth : Nat) :
    HasLines (String.join (items.map fun a => line depth (text a)))
      (items.map fun a => indentation depth ++ text a) := by
  have lines : ∀ l ∈ items.map fun a => indentation depth ++ text a, IsOneLine l :=
    List.forall_mem_map.2 fun a ha => isOneLine_append_iff.2 ⟨isOneLine_indentation depth, h a ha⟩
  have joined := hasLines_join lines
  rwa [List.map_map] at joined

theorem isOneLine_joinWith {sep : String} {parts : List String} (hsep : IsOneLine sep)
    (h : ∀ s ∈ parts, IsOneLine s) : IsOneLine (Text.joinWith sep parts) := by
  induction parts with
  | nil => exact List.not_mem_nil
  | cons s parts ih =>
    rw [List.forall_mem_cons] at h
    cases parts with
    | nil => exact h.1
    | cons t parts =>
      rw [Text.joinWith, isOneLine_append_iff, isOneLine_append_iff]
      exact ⟨⟨h.1, hsep⟩, ih h.2⟩

theorem isOneLine_of_isIdentifier {word : String} (h : isIdentifier word = true) :
    IsOneLine word := by
  intro newline
  have chars : word.toList.all isNameChar = true := by
    simp only [isIdentifier, Bool.and_eq_true] at h
    revert h
    cases word.toList with
    | nil => simp
    | cons c cs =>
      intro h
      simp only [isWord, Bool.and_eq_true] at h
      rw [List.all_cons, isNameChar_of_isNameStart h.1.1, h.1.2]
      rfl
  exact absurd (List.all_eq_true.1 chars _ newline) (by decide)

theorem isOneLine_of_isPath {path : String} (h : isPath path = true) : IsOneLine path := by
  rw [← Text.joinWith_splitAtChar '.' path]
  refine isOneLine_joinWith (by decide) fun s hs => ?_
  exact isOneLine_of_isIdentifier (List.all_eq_true.1 h s hs)

theorem isOneLine_quote (s : String) : IsOneLine (Literal.quote s) := by
  have mark : '\n' ≠ Literal.quoteMark s.toList := by
    unfold Literal.quoteMark
    split <;> decide
  have body : ∀ c, '\n' ∉ Literal.quotedChar (Literal.quoteMark s.toList) c := by
    intro c newline
    have written := Literal.isQuotedChar_quotedChar (Lexeme.isQuote_quoteMark s.toList) c
    generalize Literal.quotedChar (Literal.quoteMark s.toList) c = text at written newline
    cases written with
    | plain h => exact h.2.1 (List.mem_singleton.1 newline).symm
    | simple line _ =>
      simp only [List.mem_cons, List.not_mem_nil, or_false] at newline
      rcases newline with slash | same
      · exact absurd slash (by decide)
      · exact line same.symm
    | code _ hd he =>
      simp only [List.mem_cons, List.not_mem_nil, or_false] at newline
      rcases newline with slash | x | same | same
      · exact absurd slash (by decide)
      · exact absurd x (by decide)
      · exact hd.2.1 same.symm
      · exact he.2.1 same.symm
  simp only [IsOneLine, Literal.quote, Literal.quoteChars, String.toList_ofList, List.mem_cons,
    List.mem_append, List.mem_flatMap, List.not_mem_nil, or_false, not_or, not_exists, not_and]
  exact ⟨mark, fun c _ => body c, mark⟩

/-! ### Lines of a program -/

/-- The statement is written on one line, which is the same at the start of a block. -/
def Script.Stmt.IsLine (s : Stmt) : Prop :=
  s.isSimple = true ∧ (∀ opening, simpleText opening s = simpleText false s) ∧
    IsOneLine (simpleText false s)

theorem Script.Stmt.IsLine.text_eq {s : Stmt} (h : s.IsLine) (depth : Nat) (opening : Bool)
    (word : String) : s.text depth opening word = line depth (simpleText false s) := by
  rw [Stmt.text_of_isSimple h.1, h.2.1]

theorem Script.Stmt.IsLine.isDefinition_eq {s : Stmt} (h : s.IsLine) : s.isDefinition = false := by
  have simple := h.1
  cases s with
  | functionDef | classDef => cases simple
  | _ => rfl

/-- Behind a statement that is no definition, a block is written as behind any other. -/
theorem blockText_some {s : Stmt} (h : s.isDefinition = false) (depth : Nat) (body : Block) :
    blockText depth (some s) body = blockText depth (some .pass) body := by
  cases body with
  | nil => rfl
  | cons t body =>
    have pass : Stmt.pass.isDefinition = false := rfl
    rw [blockText, blockText, separation, separation, h, pass]
    rfl

theorem blockText_some_append {body : Block} (lines : ∀ s ∈ body, s.IsLine) (depth : Nat)
    (rest : Block) :
    blockText depth (some .pass) (body ++ rest) =
      String.join (body.map fun s => line depth (simpleText false s)) ++
        blockText depth (some .pass) rest := by
  induction body with
  | nil => rw [List.nil_append, List.map_nil, String.join_nil, String.empty_append]
  | cons s body ih =>
    rw [List.forall_mem_cons] at lines
    have apart : separation depth (some .pass) s = "" := by
      rw [separation, lines.1.isDefinition_eq]
      rfl
    rw [List.cons_append, blockText, apart, lines.1.text_eq, String.empty_append,
      blockText_some lines.1.isDefinition_eq, ih lines.2, List.map_cons, String.join_cons,
      String.append_assoc]

/-- A block that starts with statements on one line each. -/
theorem blockText_append {body : Block} (filled : body ≠ []) (lines : ∀ s ∈ body, s.IsLine)
    (depth : Nat) (rest : Block) :
    blockText depth none (body ++ rest) =
      String.join (body.map fun s => line depth (simpleText false s)) ++
        blockText depth (some .pass) rest := by
  cases body with
  | nil => exact absurd rfl filled
  | cons s body =>
    rw [List.forall_mem_cons] at lines
    rw [List.cons_append, blockText, lines.1.text_eq, separation, String.empty_append,
      blockText_some lines.1.isDefinition_eq, blockText_some_append lines.2, List.map_cons,
      String.join_cons, String.append_assoc]

theorem isLine_importStmt {i : ModuleImport} (importable : isImportable i.1 = true)
    (identifiers : ∀ n ∈ i.2, isIdentifier n = true) : (importStmt i).IsLine := by
  refine ⟨rfl, fun _ => rfl, ?_⟩
  have module : IsOneLine i.1 := by
    rcases Bool.or_eq_true_iff.1 importable with empty | path
    · rw [String.isEmpty_iff.1 empty]
      exact List.not_mem_nil
    · exact isOneLine_of_isPath path
  have names : ∀ a ∈ i.2.map fun n => (⟨n, none⟩ : Alias), IsOneLine a.text :=
    List.forall_mem_map.2 fun n hn => isOneLine_of_isIdentifier (identifiers n hn)
  have imported : IsOneLine (importedText (i.2.map fun n => ⟨n, none⟩)) := by
    unfold importedText
    split
    · next a same =>
      split
      · decide
      · exact names a (same ▸ List.mem_singleton_self a)
    · refine isOneLine_joinWith (by decide) ?_
      exact List.forall_mem_map.2 names
  have lead : IsOneLine ("from " ++ levelDots 0) := by decide
  show IsOneLine ("from " ++ levelDots 0 ++ i.1 ++ " import " ++ _)
  simp only [isOneLine_append_iff] at lead ⊢
  exact ⟨⟨⟨lead, module⟩, by decide⟩, imported⟩

/-- The text of the binding of an object. -/
def bindingText (o : SceneObject) : String :=
  Naming.variableName o.id ++ ": " ++ o.type ++ " = " ++ resourcesVar ++ ".objects[" ++
    Literal.quote o.id ++ "]"

theorem simpleText_objectBinding (o : SceneObject) (opening : Bool) :
    simpleText opening (objectBinding o) = bindingText o := by
  simp [simpleText, objectBinding, Expr.textAt, Expr.bareText, Expr.text, parenthesize, Expr.level,
    Expr.nameAttr, Expr.str, Constant.text, Level.test, Level.atom, Level.primary, bindingText,
    String.append_assoc]

theorem isLine_objectBinding {o : SceneObject} (name : isIdentifier (Naming.variableName o.id) = true)
    (type : isIdentifier o.type = true) : (objectBinding o).IsLine := by
  refine ⟨rfl, fun _ => rfl, ?_⟩
  rw [simpleText_objectBinding]
  simp only [bindingText, isOneLine_append_iff]
  exact ⟨⟨⟨⟨⟨⟨⟨isOneLine_of_isIdentifier name, by decide⟩, isOneLine_of_isIdentifier type⟩,
    by decide⟩, by decide⟩, by decide⟩, isOneLine_quote o.id⟩, by decide⟩

/-- The text of a call. -/
def ActionCall.text (c : ActionCall) : String :=
  c.object ++ "." ++ c.method ++ "(**" ++ resourcesVar ++ "." ++ c.action ++ ")"

theorem simpleText_stmt (c : ActionCall) (opening : Bool) :
    simpleText opening c.stmt = c.text := by
  have stars (rest : String) : "(" ++ ("**" ++ rest) = "(**" ++ rest := by
    rw [← String.append_assoc]
    rfl
  simp [simpleText, ActionCall.stmt, exprText, Expr.string?, Expr.textAt, Expr.bareText, Expr.text,
    parenthesize, Expr.level, argumentTexts, argumentText, argumentLevel, textsAt, Text.joinWith,
    Level.test, Level.atom, Level.primary, Level.bitOr, ActionCall.text, stars,
    String.append_assoc]

theorem isLine_stmt {c : ActionCall} (object : isIdentifier c.object = true)
    (method : isIdentifier c.method = true) (action : isIdentifier c.action = true) :
    c.stmt.IsLine := by
  refine ⟨rfl, fun opening => by rw [simpleText_stmt, simpleText_stmt], ?_⟩
  rw [simpleText_stmt]
  simp only [ActionCall.text, isOneLine_append_iff]
  exact ⟨⟨⟨⟨⟨⟨⟨isOneLine_of_isIdentifier object, by decide⟩, isOneLine_of_isIdentifier method⟩,
    by decide⟩, by decide⟩, by decide⟩, isOneLine_of_isIdentifier action⟩, by decide⟩

/-! ### The loop of a text -/

/-- The line that opens the loop. -/
def loopHead : String := "    while True:"

/-- The line is indented as deep as the body of the loop. -/
def isLoopLine (line : String) : Bool :=
  (indentation 2).toList.isPrefixOf line.toList

/-- The lines in front of the loop, the line that opens it included. -/
def frontLines (text : String) : List String :=
  let lines := Text.splitAtChar '\n' text
  lines.takeWhile (· ≠ loopHead) ++ (lines.dropWhile (· ≠ loopHead)).take 1

/-- The lines behind the line that opens the loop. -/
def linesAfterHead (text : String) : List String :=
  ((Text.splitAtChar '\n' text).dropWhile (· ≠ loopHead)).drop 1

/-- The lines in the loop. -/
def loopLines (text : String) : List String :=
  (linesAfterHead text).takeWhile isLoopLine

/-- The text with other lines in its loop. -/
def withLoopLines (text : String) (lines : List String) : String :=
  Text.joinWith "\n" (frontLines text ++ lines ++ (linesAfterHead text).dropWhile isLoopLine)

/-- In a text that is cut into lines at its loop, the loop is found and can be replaced. -/
theorem loopLines_of_splitAtChar {text text' : String} {front calls calls' back : List String}
    (other : ∀ l ∈ front, l ≠ loopHead) (deep : ∀ l ∈ calls, isLoopLine l = true)
    (behind : ∀ l ∈ back.head?, isLoopLine l = false)
    (h : Text.splitAtChar '\n' text = front ++ loopHead :: (calls ++ back))
    (h' : Text.splitAtChar '\n' text' = front ++ loopHead :: (calls' ++ back)) :
    loopLines text = calls ∧ withLoopLines text calls' = text' := by
  have outside : ∀ l ∈ front, decide (l ≠ loopHead) = true := fun l hl => by simpa using other l hl
  have before : frontLines text = front ++ [loopHead] := by
    rw [frontLines, h]
    rw [List.takeWhile_append_of_pos outside, List.dropWhile_append_of_pos outside]
    simp
  have after : linesAfterHead text = calls ++ back := by
    rw [linesAfterHead, h, List.dropWhile_append_of_pos outside]
    simp
  have stops : back.takeWhile isLoopLine = [] ∧ back.dropWhile isLoopLine = back := by
    cases back with
    | nil => exact ⟨rfl, rfl⟩
    | cons l back => simp [behind l rfl]
  constructor
  · rw [loopLines, after, List.takeWhile_append_of_pos deep, stops.1, List.append_nil]
  · rw [withLoopLines, before, after, List.dropWhile_append_of_pos deep, stops.2]
    have whole := Text.joinWith_splitAtChar '\n' text'
    rw [h'] at whole
    simpa using whole

/-! ### The lines of a program -/

variable {settings : Settings} {p : Project} {scene : Scene} {catalog : Catalog} {text : String}
  {calls calls' : List ActionCall}

/-- The line of a call in the loop. -/
def ActionCall.line (c : ActionCall) : String :=
  indentation 2 ++ c.text

/-- The lines of a program in front of its loop. -/
def programFront (settings : Settings) (scene : Scene) : List String :=
  ["#!/usr/bin/env python3", "# -*- coding: utf-8 -*-", ""] ++
    ((programImports settings scene).map fun i => indentation 0 ++ simpleText false (importStmt i)) ++
    ["", "", "def main() -> None:"] ++
    (bindings scene.objects).map fun s => indentation 1 ++ simpleText false s

/-- The lines of a program behind its loop. -/
def programBack : List String :=
  ["", "", "if __name__ == '__main__':", "    main()"]

theorem blockText_mainLoop (body : Block) :
    blockText 1 (some .pass) [mainLoop body] = loopHead ++ "\n" ++ blockText 2 none body := by
  have apart : separation 1 (some .pass) (mainLoop body) = "" := rfl
  have header : headerLine 1 (whileHeader (.constant (.bool true))) = loopHead ++ "\n" := by decide
  have clause : clauseText 1 "else" [] (blockText 2 none []) = "" := rfl
  rw [blockText, apart, mainLoop, Stmt.text, header, clause, blockText]
  simp only [String.empty_append, String.append_empty]

theorem blockText_mainFunction (body : Block) :
    blockText 0 (some .pass) [.functionDef (mainFunction body), mainGuard] =
      "\n\ndef main() -> None:\n" ++ blockText 1 none body ++
        "\n\nif __name__ == '__main__':\n    main()\n" := by
  have apart : separation 0 (some .pass) (.functionDef (mainFunction body)) = "\n\n" := rfl
  have header : headerLine 0 (functionHeader false mainName [] (some (.constant .none))) =
      "def main() -> None:\n" := by decide
  have guard : blockText 0 (some (.functionDef (mainFunction body))) [mainGuard] =
      "\n\nif __name__ == '__main__':\n    main()\n" := by rfl
  have opening (rest : String) :
      "\n\n" ++ ("def main() -> None:\n" ++ rest) = "\n\ndef main() -> None:\n" ++ rest := by
    rw [← String.append_assoc]
    rfl
  rw [blockText, apart, guard, mainFunction, Stmt.text, header]
  simp only [decoratorLines, List.map_nil, String.join_nil, String.empty_append,
    String.append_assoc, opening]

theorem hasLines_scriptHeader :
    HasLines scriptHeader ["#!/usr/bin/env python3", "# -*- coding: utf-8 -*-", ""] := by
  have joined : scriptHeader =
      String.join (["#!/usr/bin/env python3", "# -*- coding: utf-8 -*-", ""].map (· ++ "\n")) := by
    decide
  rw [joined]
  exact hasLines_join (by decide)

theorem hasLines_mainHeader :
    HasLines "\n\ndef main() -> None:\n" ["", "", "def main() -> None:"] := by
  have joined : "\n\ndef main() -> None:\n" =
      String.join (["", "", "def main() -> None:"].map (· ++ "\n")) := by decide
  rw [joined]
  exact hasLines_join (by decide)

theorem hasLines_mainGuard :
    HasLines "\n\nif __name__ == '__main__':\n    main()\n" programBack := by
  have joined : "\n\nif __name__ == '__main__':\n    main()\n" =
      String.join (programBack.map (· ++ "\n")) := by decide
  rw [joined]
  exact hasLines_join (by decide)

theorem programImports_ne_nil (settings : Settings) (scene : Scene) :
    programImports settings scene ≠ [] := by
  have pair : (settings.resourcesModule, resourcesClass) ∈
      importedPairs (programImports settings scene) :=
    mem_importedPairs_programImports.2 (.inl rfl)
  obtain ⟨i, hi, -⟩ := mem_importedPairs_iff.1 pair
  exact List.ne_nil_of_mem hi

/-- The text of a script that calls actions: the lines in front of the loop and behind it do not
depend on the calls. -/
theorem hasLines_calledScript (hscene : checkScene scene = .ok ())
    (checked : checkBlock (calledScript settings scene calls) = .ok ()) :
    HasLines (scriptHeader ++ blockText 0 none (calledScript settings scene calls))
      (programFront settings scene ++ loopHead :: (calls.map ActionCall.line ++ programBack)) := by
  obtain ⟨-, objects, filled, words⟩ := (checkBlock_calledScript_iff hscene).1 checked
  have imports : ∀ s ∈ (programImports settings scene).map importStmt, s.IsLine := by
    rw [List.forall_mem_map]
    intro i hi
    have tidy := (isTidy_programImports settings scene).names i hi
    have names : ∀ n ∈ i.2, isIdentifier n = true := fun n hn =>
      isIdentifier_of_mem_importedPairs hscene (mem_importedPairs_iff.2 ⟨i, hi, rfl, hn⟩)
    rw [calledScript, checkBlock_programBlock_iff] at checked
    exact isLine_importStmt ((check_importStmt_iff tidy.1 names).1 (checked.1 i hi)) names
  have vars : ∀ s ∈ bindings scene.objects, s.IsLine := by
    rw [bindings, List.forall_mem_cons, List.forall_mem_map]
    refine ⟨⟨rfl, fun _ => rfl, by decide⟩, fun o ho => ?_⟩
    obtain ⟨ho, other⟩ := List.mem_filter.1 ho
    exact isLine_objectBinding ((objects o ho).2 (of_decide_eq_true other))
      ((checkScene_eq_ok_iff.1 hscene).1 o ho)
  have loop : ∀ s ∈ calls.map ActionCall.stmt, s.IsLine := by
    rw [List.forall_mem_map]
    intro c hc
    exact isLine_stmt (words c hc).1 (words c hc).2.1 (words c hc).2.2
  have body : blockText 2 none (calls.map ActionCall.stmt) =
      String.join (calls.map fun c => line 2 c.text) := by
    have := blockText_append (by simpa using filled) loop 2 []
    rw [List.append_nil] at this
    rw [this, blockText, String.append_empty, List.map_map]
    simp only [Function.comp_def, simpleText_stmt]
  have head : IsOneLine loopHead := by decide
  have varsFilled : bindings scene.objects ≠ [] := List.cons_ne_nil _ _
  rw [calledScript, programBlock,
    blockText_append (by simpa using programImports_ne_nil settings scene) imports,
    blockText_mainFunction, blockText_append varsFilled vars, blockText_mainLoop, body]
  have importLines := hasLines_lines (fun s hs => (imports s hs).2.2) 0
  have varLines := hasLines_lines (fun s hs => (vars s hs).2.2) 1
  have callTexts : ∀ c ∈ calls, IsOneLine c.text := by
    intro c hc
    have := (loop _ (List.mem_map_of_mem hc)).2.2
    rwa [simpleText_stmt] at this
  have callLines := hasLines_lines callTexts 2
  have whole := hasLines_scriptHeader.append (importLines.append ((hasLines_mainHeader.append
    (varLines.append (head.hasLines.append callLines))).append hasLines_mainGuard))
  convert whole using 1
  simp [programFront, List.map_map, ActionCall.line, Function.comp_def]

theorem ne_loopHead_of_mem_programFront : ∀ l ∈ programFront settings scene, l ≠ loopHead := by
  simp only [programFront, List.forall_mem_append, List.forall_mem_map]
  refine ⟨⟨⟨by decide, fun i _ same => ?_⟩, by decide⟩, ?_⟩
  · -- an import is not indented
    have := congrArg (fun l => l.toList.head?) same
    simp [importStmt, simpleText, indentation, loopHead] at this
  · rw [bindings, List.forall_mem_cons, List.forall_mem_map]
    refine ⟨by decide, fun o _ same => ?_⟩
    -- the binding of an object ends with a bracket
    have := congrArg (fun l => l.toList.getLast?) same
    simp only [simpleText_objectBinding, bindingText, loopHead, String.toList_append,
      List.getLast?_append] at this
    simp at this

theorem isLoopLine_line (c : ActionCall) : isLoopLine c.line = true := by
  rw [isLoopLine, ActionCall.line, String.toList_append, List.isPrefixOf_iff_prefix]
  exact List.prefix_append _ _

/-- The lines in the loop of a program are its calls, and with other lines there it is the script
with the other calls. -/
theorem loopLines_calledScript (hscene : checkScene scene = .ok ())
    (checked : checkBlock (calledScript settings scene calls) = .ok ())
    (checked' : checkBlock (calledScript settings scene calls') = .ok ()) :
    let text := scriptHeader ++ blockText 0 none (calledScript settings scene calls)
    loopLines text = calls.map ActionCall.line ∧
      withLoopLines text (calls'.map ActionCall.line) =
        scriptHeader ++ blockText 0 none (calledScript settings scene calls') := by
  have lines := (hasLines_calledScript hscene checked).splitAtChar_eq
  have lines' := (hasLines_calledScript hscene checked').splitAtChar_eq
  rw [List.append_assoc, List.cons_append, List.append_assoc] at lines lines'
  refine loopLines_of_splitAtChar ne_loopHead_of_mem_programFront ?_ (by decide) lines lines'
  exact List.forall_mem_map.2 fun c _ => isLoopLine_line c

/-! ### Other orders -/

theorem ActionCall.stmt_injective : Function.Injective ActionCall.stmt := by
  intro c d same
  have := (actionCall?_eq_some_iff c.stmt c).2 rfl
  rw [same, (actionCall?_eq_some_iff d.stmt d).2 rfl] at this
  exact (Option.some.inj this).symm

/-- A program with the same calls in another order calls the same actions. -/
theorem Project.IsCalledBy.of_perm {text' : String} {script : Block} (h : p.IsCalledBy text calls)
    (perm : calls'.Perm calls) (parsed : parse text' = .ok script)
    (loop : mainLoopBody script = .ok (calls'.map ActionCall.stmt)) :
    p.IsCalledBy text' calls' where
  distinct := h.distinct
  loop := ⟨script, parsed, loop⟩
  nonempty := fun empty => h.nonempty (List.nil_perm.1 (empty ▸ perm))
  enumerates := (perm.map ActionCall.action).trans h.enumerates
  fits := fun c hc => h.fits c (perm.subset hc)

theorem LinkedIn.checkAction_eq {ids : List String} {a b : Action} (h : LinkedIn ids a b) :
    checkAction scene catalog b = checkAction scene catalog a := by
  obtain ⟨k, -, rfl⟩ := h
  rfl

/-- A project has the program that it takes its links from. -/
theorem exists_recover_program_of_isCalledBy (hscene : checkScene scene = .ok ())
    (keep : ∀ o ∈ scene.objects, o.KeepsResources)
    (actions : ∀ a ∈ p.actions, checkAction scene catalog a = .ok ())
    (checked : checkBlock (calledScript settings scene calls) = .ok ())
    (same : text = scriptHeader ++ blockText 0 none (calledScript settings scene calls))
    (h : p.IsCalledBy text calls) :
    ∃ q, recover text p = .ok q ∧ program settings q scene catalog = .ok text := by
  obtain ⟨q, found, -, linked, path, hpath, names⟩ := h.exists_recover_eq_ok
  have inside := ((chain_eq_ok_iff q path).1 hpath).enumerates.subset
  -- every action on the new path is one of the project, apart from its links
  have origin : ∀ b ∈ path, ∃ a ∈ p.actions, LinkedIn (calls.map ActionCall.action) a b := by
    intro b hb
    obtain ⟨n, hn, rfl⟩ := List.getElem_of_mem (inside hb)
    have hn' : n < p.actions.length := by rwa [linked.length_eq]
    exact ⟨_, List.getElem_mem hn', (List.forall₂_iff_get.1 linked).2 n hn' hn⟩
  have valid : ∀ b ∈ path, checkAction scene catalog b = .ok () := by
    intro b hb
    obtain ⟨a, ha, link⟩ := origin b hb
    rw [link.checkAction_eq]
    exact actions a ha
  have paired : List.Forall₂ (fun a c => a.id = ActionCall.action c) path calls := by
    rwa [← List.forall₂_eq_eq_eq, List.forall₂_map_left_iff, List.forall₂_map_right_iff] at names
  have called : List.Forall₂ (fun a c => ActionCall.IsOf c a) path calls := by
    rw [List.forall₂_iff_zip] at paired ⊢
    refine ⟨paired.1, fun {b c} pair => ?_⟩
    obtain ⟨hb, hc⟩ := List.of_mem_zip pair
    obtain ⟨a, ha, link⟩ := origin b hb
    have id_eq : a.id = c.action := link.id_eq.symm.trans (paired.2 pair)
    refine ⟨(paired.2 pair).symm, (h.fits c hc a ha id_eq).of_type_eq ?_⟩
    obtain ⟨k, -, rfl⟩ := link
    rfl
  exact ⟨q, found, program_eq_ok_iff.2 ⟨hscene, keep, path, calls, hpath, valid, called, checked, same⟩⟩

/-- Whether the script with the given calls is written does not depend on their order. -/
theorem checkBlock_calledScript_of_perm (hscene : checkScene scene = .ok ())
    (perm : calls'.Perm calls) (checked : checkBlock (calledScript settings scene calls) = .ok ()) :
    checkBlock (calledScript settings scene calls') = .ok () := by
  rw [checkBlock_calledScript_iff hscene] at checked ⊢
  obtain ⟨res, objects, filled, words⟩ := checked
  refine ⟨res, objects, fun empty => filled ?_, fun c hc => words c (perm.subset hc)⟩
  exact List.nil_perm.1 (empty ▸ perm)

/-- The loop of a program holds one line for each action on the path. If these lines are put into
any other order, the project takes its links from the text, and the text is its program then. -/
theorem program_withLoopLines (h : program settings p scene catalog = .ok text) :
    (∃ path calls, chain p = .ok path ∧
      List.Forall₂ (fun a c => ActionCall.IsOf c a) path calls ∧
      loopLines text = calls.map ActionCall.line) ∧
    ∀ lines, lines.Perm (loopLines text) →
      ∃ q, recover (withLoopLines text lines) p = .ok q ∧
        program settings q scene catalog = .ok (withLoopLines text lines) := by
  obtain ⟨hscene, keep, path, calls, hpath, actions, called, checked, same⟩ := program_eq_ok_iff.1 h
  have loop : loopLines text = calls.map ActionCall.line := by
    rw [same]
    exact (loopLines_calledScript hscene checked checked).1
  refine ⟨⟨path, calls, hpath, called, loop⟩, fun lines perm => ?_⟩
  obtain ⟨calls', rfl, reordered⟩ :
      Relation.Comp (· = List.map ActionCall.line ·) List.Perm lines calls := by
    rw [List.eq_map_comp_perm]
    rwa [loop] at perm
  have checked' := checkBlock_calledScript_of_perm hscene reordered checked
  have text_eq := (loopLines_calledScript hscene checked checked').2
  rw [← same] at text_eq
  -- the project is called by its own program, hence by the edited one
  have own : p.IsCalledBy text calls := by
    obtain ⟨-, own, -, -, h⟩ := isCalledBy_of_program h (.refl _)
    obtain ⟨script, parsed, body⟩ := h.loop
    rw [same, parse_calledScript hscene (ne_nil_of_isOf hpath called) checked] at parsed
    cases parsed
    rw [calledScript, mainLoopBody_programBlock] at body
    rwa [ActionCall.stmt_injective.list_map (Except.ok.inj body)]
  have filled : calls' ≠ [] := ((checkBlock_calledScript_iff hscene).1 checked').2.2.1
  have edited : p.IsCalledBy (withLoopLines text (calls'.map ActionCall.line)) calls' := by
    have parsed := parse_calledScript hscene filled checked'
    rw [← text_eq] at parsed
    exact own.of_perm reordered parsed (mainLoopBody_programBlock _)
  have all : ∀ a ∈ p.actions, checkAction scene catalog a = .ok () := fun a ha =>
    actions a (((chain_eq_ok_iff p path).1 hpath).enumerates.symm.subset ha)
  exact exists_recover_program_of_isCalledBy hscene keep all checked' text_eq edited

/-- With the two lines in the loop swapped, the camera looks before the arm picks. -/
theorem program_cameraText_swapped :
    program {} cameraProject cameraScene cameraCatalog = .ok cameraText ∧
      loopLines cameraText =
        ["        left_arm.grip(**res.pick)", "        camera.scan(**res.look)"] ∧
      ∃ q, recover (withLoopLines cameraText (loopLines cameraText).reverse) cameraProject = .ok q ∧
        program {} q cameraScene cameraCatalog =
          .ok (withLoopLines cameraText (loopLines cameraText).reverse) := by
  obtain ⟨-, reordered⟩ := program_withLoopLines program_cameraProject
  refine ⟨program_cameraProject, ?_, reordered _ (List.reverse_perm _)⟩
  have checked : checkBlock (calledScript {} cameraScene cameraCalls) = .ok () := rfl
  rw [cameraText, (loopLines_calledScript rfl checked checked).1]
  rfl

end RobotCell
