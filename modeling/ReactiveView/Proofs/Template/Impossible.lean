/-
**A fault stands at the first impossible token.**

A row of tokens is viable if something valid begins with it. Reading takes a token as long as what
it has taken is viable with it, so it stops at the first token with which it is not, or behind the
last token if all of them are viable and yet not valid. There the fault of a tag is placed.

* `Grammar.Statement` — the rows of tokens that are statements.
* `ReadsExactly` — a reader stops at the first impossible token.
* `exact_readExpr`, `exact_readStatement` — the readers of expressions and statements do.
* `FaultPlace` — the place of the first impossible token, or the end of the code.
* `compile_fault` — where the fault of a source is placed.
-/

import ReactiveView.Proofs.Template.Grammar
import ReactiveView.Proofs.Template.Lexing
import ReactiveView.Proofs.Template.Standalone

namespace ReactiveView

/-- **The rows of tokens that are statements**, by their first word. -/
def Grammar.Statement : List Token → Prop
  | .ident "if" :: test => Expression test
  | .ident "elsif" :: test => Expression test
  | [.ident "else"] => True
  | [.ident "end"] => True
  | .ident "for" :: .ident _ :: .inWord :: iterable => Expression iterable
  | .ident "for" :: .ident _ :: .comma :: .ident _ :: .inWord :: iterable => Expression iterable
  | .ident "let" :: .ident _ :: .assign :: value => Expression value
  | _ => False

/-- The tokens of placed tokens. -/
def tokensOf (placed : List PlacedToken) : List Token := placed.map PlacedToken.token

/-- **Tokens that something valid begins with.** -/
def Viable (valid : List Token → Prop) (front : List Token) : Prop := ∃ more, valid (front ++ more)

theorem Viable.of_append {valid : List Token → Prop} {front more : List Token}
    (viable : Viable valid (front ++ more)) : Viable valid front := by
  obtain ⟨rest, holds⟩ := viable
  exact ⟨more ++ rest, by rwa [← List.append_assoc]⟩

/-- **The rest of some tokens from the first impossible one on**; nothing is left where all of them
are possible and do not do. -/
inductive Stops (valid : List Token → Prop) : List PlacedToken → List PlacedToken → Prop
  | token {front back : List PlacedToken} {first : PlacedToken}
    (possible : Viable valid (tokensOf front))
    (impossible : ¬Viable valid (tokensOf (front ++ [first]))) :
    Stops valid (front ++ first :: back) (first :: back)
  | ending {placed : List PlacedToken} (possible : Viable valid (tokensOf placed))
    (unfinished : ¬valid (tokensOf placed)) : Stops valid placed []

/-- **A reader takes what is valid and stops at the first impossible token of all else.** -/
inductive ReadsExactly {α : Type} (valid : List Token → Prop) (placed : List PlacedToken) :
    Except (Stuck PlacedToken) α → Prop
  | ok {value : α} (holds : valid (tokensOf placed)) : ReadsExactly valid placed (.ok value)
  | stuck {rest : List PlacedToken} (stops : Stops valid placed rest) :
    ReadsExactly valid placed (.error ⟨rest, .unexpected⟩)

namespace ReadsExactly

variable {α β : Type} {valid other : List Token → Prop} {placed rest : List PlacedToken}
  {first : PlacedToken} {result : Except (Stuck PlacedToken) α}

theorem map (reads : ReadsExactly valid placed result) (f : α → β) :
    ReadsExactly valid placed (result.map f) := by
  cases reads with
  | ok holds => exact .ok holds
  | stuck stops => exact .stuck stops

/-- A reader of what follows a token reads what the token is in front of. -/
theorem behind (reads : ReadsExactly (fun more => valid (first.token :: more)) rest result) :
    ReadsExactly valid (first :: rest) result := by
  cases reads with
  | ok holds => exact .ok holds
  | stuck stops =>
    cases stops with
    | @token front back next possible impossible =>
      exact .stuck (@Stops.token valid (first :: front) back next possible impossible)
    | ending possible unfinished =>
      exact .stuck (@Stops.ending valid (first :: _) possible unfinished)

/-- A reader may stop at once where nothing valid begins with the first token. -/
theorem here (possible : ∃ tokens, valid tokens)
    (impossible : ∀ first ∈ placed.head?, ∀ more, ¬valid (first.token :: more))
    (unfinished : placed = [] → ¬valid []) :
    ReadsExactly valid placed (.error ⟨placed, .unexpected⟩ : Except (Stuck PlacedToken) α) := by
  cases placed with
  | nil => exact .stuck (.ending possible (unfinished rfl))
  | cons first rest =>
    have noMore : ¬Viable valid (tokensOf ([] ++ [first])) := by
      rintro ⟨more, holds⟩
      exact impossible first rfl more holds
    exact .stuck (@Stops.token valid [] rest first possible noMore)

end ReadsExactly

/-! ### Expressions -/

/-- Reading goes on up to the first token that nothing readable has there. -/
theorem Reading.exact_run (state : Reading) (placed : List PlacedToken) :
    ReadsExactly state.Accepts placed (state.run placed) := by
  have completes (state : Reading) : ∃ tokens, state.Accepts tokens := by
    obtain ⟨more, last, reads, done⟩ := exists_completion state
    exact ⟨more, accepts_iff.mpr ⟨last, reads, done⟩⟩
  induction placed generalizing state with
  | nil =>
    rw [run]
    cases finishes : state.finish with
    | some value => exact .ok (accepts_iff.mpr ⟨state, rfl, by rw [finishes]; rfl⟩)
    | none =>
      refine .here (completes state) (fun first head => by cases head) fun _ accepts => ?_
      obtain ⟨last, same, done⟩ := accepts_iff.mp accepts
      cases same
      rw [finishes] at done
      cases done
  | cons first rest ih =>
    rw [run]
    cases step : state.step first.token with
    | some next =>
      refine .behind ?_
      have goesOn : (fun more => state.Accepts (first.token :: more)) = next.Accepts :=
        funext fun more => by rw [Accepts, after_cons step, Accepts]
      rw [goesOn]
      exact ih next
    | none =>
      refine .here (completes state) ?_ fun empty => by cases empty
      rintro _ ⟨⟩ more accepts
      obtain ⟨last, reads, -⟩ := accepts_iff.mp accepts
      obtain ⟨next, taken, -⟩ := Option.bind_eq_some_iff.mp reads
      rw [step] at taken
      cases taken

theorem exact_readExpr (placed : List PlacedToken) :
    ReadsExactly Grammar.Expression placed (readExpr placed) := by
  have valid : Grammar.Expression = Reading.start.Accepts :=
    funext fun tokens => propext Grammar.expression_iff
  rw [valid]
  exact Reading.start.exact_run placed

/-! ### Statements -/

/-- The first of some tokens is another than one that they do not begin with. -/
theorem ne_of_head? {placed : List PlacedToken} {token : Token}
    (other : ∀ place rest, placed = ⟨token, place⟩ :: rest → False) {first : PlacedToken}
    (head : first ∈ placed.head?) : first.token ≠ token := by
  rintro rfl
  obtain ⟨rest, rfl⟩ := List.head?_eq_some_iff.mp head
  exact other first.place rest rfl

/-- Some expression. -/
theorem Grammar.expression_nil : Grammar.Expression [.nilWord] := by decide

/-- A statement begins with one of six words. -/
theorem Grammar.statement_first {token : Token} {more : List Token}
    (statement : Statement (token :: more)) :
    ∃ word ∈ ["if", "elsif", "else", "end", "for", "let"], token = .ident word := by
  unfold Statement at statement
  split at statement
  all_goals
    first
    | exact statement.elim
    | next same =>
      cases same
      exact ⟨_, by decide, rfl⟩

/-- Nothing follows the words of two statements. -/
theorem Grammar.statement_alone {word : String} (alone : word = "else" ∨ word = "end")
    (more : List Token) : Statement (.ident word :: more) ↔ more = [] := by
  rcases alone with rfl | rfl <;>
  · cases more with
    | nil => exact ⟨fun _ => rfl, fun _ => trivial⟩
    | cons => exact ⟨False.elim, nofun⟩

namespace Statement

variable {valid : List Token → Prop}

/-- A reader of an expression behind a token. -/
theorem exact_expression {α : Type} {first : PlacedToken} (f : Expr → α)
    (header : ∀ more, valid (first.token :: more) ↔ Grammar.Expression more)
    (rest : List PlacedToken) :
    ReadsExactly valid (first :: rest) ((readExpr rest).map f) := by
  refine .behind ?_
  have same : (fun more => valid (first.token :: more)) = Grammar.Expression :=
    funext fun more => propext (header more)
  rw [same]
  exact (exact_readExpr rest).map f

theorem exact_readIterable (item : String) (second : Option String)
    (header : ∀ more, valid (.inWord :: more) ↔ Grammar.Expression more)
    {placed : List PlacedToken}
    (impossible : ∀ first ∈ placed.head?, first.token ≠ .inWord → ∀ more,
      ¬valid (first.token :: more))
    (unfinished : ¬valid []) : ReadsExactly valid placed (readIterable item second placed) := by
  have possible : ∃ tokens, valid tokens :=
    ⟨[.inWord, .nilWord], (header _).mpr Grammar.expression_nil⟩
  unfold readIterable
  split
  · exact exact_expression _ header _
  · next other =>
    refine .here possible (fun first head => ?_) fun _ => unfinished
    exact impossible first head (ne_of_head? other head)

theorem exact_ending (statement : Statement) (header : ∀ more, valid more ↔ more = [])
    (placed : List PlacedToken) : ReadsExactly valid placed (ending statement placed) := by
  cases placed with
  | nil => exact .ok ((header []).mpr rfl)
  | cons first rest =>
    refine .here ⟨[], (header []).mpr rfl⟩ (fun token _ more holds => ?_) nofun
    cases (header _).mp holds

theorem exact_readLoop (placed : List PlacedToken) :
    ReadsExactly (fun more => Grammar.Statement (.ident "for" :: more)) placed
      (readLoop placed) := by
  unfold readLoop
  split
  · next item _ _ second _ rest =>
    refine .behind (.behind (.behind (exact_readIterable item second (fun _ => Iff.rfl) ?_ id)))
    rintro ⟨token, place⟩ - other more
    cases token <;> first | exact id | exact absurd rfl other
  · next item _ _ rest other =>
    have possible : Grammar.Statement (.ident "for" :: .ident item :: .comma ::
        [.ident item, .inWord, .nilWord]) := Grammar.expression_nil
    refine .behind (.behind (.here ⟨_, possible⟩ ?_ fun _ => id))
    rintro ⟨token, place⟩ head more
    cases token <;> first | exact id | exact (ne_of_head? (other _) head rfl).elim
  · next item _ rest _ other =>
    refine .behind (exact_readIterable item none (fun _ => Iff.rfl) ?_ id)
    rintro ⟨token, place⟩ head noIn more
    cases token <;>
      first
      | exact id
      | exact absurd rfl noIn
      | exact (ne_of_head? other head rfl).elim
  · next other =>
    have possible : Grammar.Statement (.ident "for" :: [.ident "x", .inWord, .nilWord]) :=
      Grammar.expression_nil
    refine .here ⟨_, possible⟩ ?_ fun _ => id
    rintro ⟨token, place⟩ head more
    cases token <;> first | exact id | exact (ne_of_head? (other _) head rfl).elim

theorem exact_readBinding (placed : List PlacedToken) :
    ReadsExactly (fun more => Grammar.Statement (.ident "let" :: more)) placed
      (readBinding placed) := by
  unfold readBinding
  split
  · next name _ _ rest =>
    exact .behind (exact_expression _ (fun _ => Iff.rfl) rest)
  · next name _ rest other =>
    have possible : Grammar.Statement (.ident "let" :: .ident name :: [.assign, .nilWord]) :=
      Grammar.expression_nil
    refine .behind (.here ⟨_, possible⟩ ?_ fun _ => id)
    rintro ⟨token, place⟩ head more
    cases token <;> first | exact id | exact (ne_of_head? other head rfl).elim
  · next other =>
    have possible : Grammar.Statement (.ident "let" :: [.ident "x", .assign, .nilWord]) :=
      Grammar.expression_nil
    refine .here ⟨_, possible⟩ ?_ fun _ => id
    rintro ⟨token, place⟩ head more
    cases token <;> first | exact id | exact (ne_of_head? (other _) head rfl).elim

end Statement

/-- **The reader of statements stops at the first impossible token.** -/
theorem exact_readStatement (placed : List PlacedToken) :
    ReadsExactly Grammar.Statement placed (readStatement placed) := by
  have possible : ∃ tokens, Grammar.Statement tokens := ⟨[.ident "end"], trivial⟩
  unfold readStatement
  split
  · next word place rest =>
    split_ifs with isIf isElsif isElse isEnd isFor isLet
    · subst isIf
      exact Statement.exact_expression _ (fun _ => Iff.rfl) rest
    · subst isElsif
      exact Statement.exact_expression _ (fun _ => Iff.rfl) rest
    · subst isElse
      exact .behind (Statement.exact_ending _ (Grammar.statement_alone (Or.inl rfl)) rest)
    · subst isEnd
      exact .behind (Statement.exact_ending _ (Grammar.statement_alone (Or.inr rfl)) rest)
    · subst isFor
      exact .behind (Statement.exact_readLoop rest)
    · subst isLet
      exact .behind (Statement.exact_readBinding rest)
    · refine .here possible ?_ nofun
      rintro _ ⟨⟩ more statement
      obtain ⟨known, member, same⟩ := Grammar.statement_first statement
      cases same
      simp only [List.mem_cons, List.not_mem_nil, isIf, isElsif, isElse, isEnd, isFor, isLet,
        or_self] at member
  · next other =>
    refine .here possible ?_ fun _ => id
    rintro ⟨token, place⟩ head more statement
    obtain ⟨word, -, rfl⟩ := Grammar.statement_first statement
    exact ne_of_head? (other word) head rfl

/-! ### The place of a fault -/

/-- **The place of a fault** in code of a length: that of the first token with which the tokens are
not viable any more, or the end of the code if they all are. -/
inductive FaultPlace (valid : List Token → Prop) (length : Nat) (placed : List PlacedToken) :
    Nat → Prop
  | token {front back : List PlacedToken} {first : PlacedToken}
    (split : placed = front ++ first :: back) (possible : Viable valid (tokensOf front))
    (impossible : ¬Viable valid (tokensOf (front ++ [first]))) :
    FaultPlace valid length placed first.place
  | ending (possible : Viable valid (tokensOf placed)) : FaultPlace valid length placed length

namespace FaultPlace

variable {valid : List Token → Prop} {length place other : Nat}
  {placed front more : List PlacedToken} {first : PlacedToken}

/-- Nothing is viable that goes on behind an impossible token. -/
theorem not_viable (impossible : ¬Viable valid (tokensOf (front ++ [first]))) :
    ¬Viable valid (tokensOf (front ++ first :: more)) := by
  intro viable
  rw [← List.singleton_append, ← List.append_assoc, tokensOf, List.map_append] at viable
  exact impossible viable.of_append

/-- There is one such place. -/
theorem unique (here : FaultPlace valid length placed place)
    (there : FaultPlace valid length placed other) : place = other := by
  cases here with
  | token split possible impossible =>
    cases there with
    | token same likewise never =>
      rcases List.append_eq_append_iff.mp (split.symm.trans same) with
        ⟨between, rfl, rest⟩ | ⟨between, rfl, rest⟩
      · cases between with
        | nil => cases rest; rfl
        | cons => cases rest; exact (not_viable impossible likewise).elim
      · cases between with
        | nil => cases rest; rfl
        | cons => cases rest; exact (not_viable never possible).elim
    | ending all =>
      rw [split] at all
      exact (not_viable impossible all).elim
  | ending all =>
    cases there with
    | token same _ never =>
      rw [same] at all
      exact (not_viable never all).elim
    | ending => rfl

end FaultPlace

namespace Template

variable {valid : List Token → Prop} {tag : Tag} {placed : List PlacedToken}

/-- What the code of a tag is to be; a comment and an empty statement need not be anything. -/
def Tag.language? (tag : Tag) : Option (List Token → Prop) :=
  match tag.kind with
  | .comment => none
  | .statement => if tag.code.isEmpty then none else some Grammar.Statement
  | .output => some Grammar.Expression
  | .rawOutput => some Grammar.Expression

/-- A reader that stops at the first impossible token places the fault of a tag there. -/
theorem Forest.located_fault {α : Type} {reader : List PlacedToken → Except (Stuck PlacedToken) α}
    (reads : ReadsExactly valid placed (reader placed)) (tokens : tokenize tag.code = .ok placed)
    (wrong : ¬valid (tokensOf placed)) :
    ∃ place, FaultPlace valid tag.code.length placed place ∧
      located tag reader = .error (tag.codeStart + place, "syntax error") := by
  generalize result : reader placed = found at reads
  have read : located tag reader = locate (placeOf tag) found := by
    rw [located, Forest.tokens, tokens, ← result]
    rfl
  rw [read]
  cases reads with
  | ok holds => exact absurd holds wrong
  | stuck stops =>
    cases stops with
    | token possible impossible => exact ⟨_, .token rfl possible impossible, rfl⟩
    | ending possible => exact ⟨_, .ending possible, rfl⟩

/-- **The fault of a tag** is placed at its first impossible token. -/
theorem Forest.stepTag_fault (forest : Forest) (language : tag.language? = some valid)
    (tokens : tokenize tag.code = .ok placed) (wrong : ¬valid (tokensOf placed)) :
    ∃ place, FaultPlace valid tag.code.length placed place ∧
      forest.stepTag tag = .error (tag.codeStart + place, "syntax error") := by
  unfold Tag.language? at language
  cases kind : tag.kind <;> simp only [kind] at language
  case comment => cases language
  case statement =>
    obtain ⟨nonempty, same⟩ := Option.ite_none_left_eq_some.mp language
    cases same
    obtain ⟨place, fault, read⟩ := located_fault (exact_readStatement placed) tokens wrong
    rw [List.isEmpty_iff] at nonempty
    exact ⟨place, fault, by rw [stepTag_of_statement kind nonempty, read]; rfl⟩
  case output =>
    cases language
    obtain ⟨place, fault, read⟩ := located_fault (exact_readExpr placed) tokens wrong
    exact ⟨place, fault, by rw [stepTag_of_output kind, read]; rfl⟩
  case rawOutput =>
    cases language
    obtain ⟨place, fault, read⟩ := located_fault (exact_readExpr placed) tokens wrong
    exact ⟨place, fault, by rw [stepTag_of_rawOutput kind, read]; rfl⟩

/-- Segments that are taken lead to what is behind them. -/
theorem Forest.run_append {forest next : Forest} {front : List Segment} (back : List Segment)
    (reached : front.foldlM Forest.step forest = .ok next) :
    forest.run (front ++ back) = next.run back := by
  induction front generalizing forest with
  | nil =>
    cases reached
    rfl
  | cons first rest ih =>
    rw [List.foldlM_cons] at reached
    rw [List.cons_append, run]
    cases step : forest.step first with
    | error found =>
      rw [step] at reached
      cases reached
    | ok middle =>
      rw [step] at reached
      exact ih reached

/--
**Syntax errors point at the first impossible token.** The first tag that is at fault in a source,
of an output or of a statement that is not empty, has tokens that are no expression or no statement.
Then the fault of the source is at the first token with which they are not viable any more, or at
the end of the code of the tag if all of them are.
-/
theorem compile_fault {source : String} {before after : List Segment} {forest : Forest}
    (scanned : segments source.toList = .ok (before ++ .tag tag :: after))
    (reached : before.foldlM Forest.step Forest.empty = .ok forest)
    (language : tag.language? = some valid) (tokens : tokenize tag.code = .ok placed)
    (wrong : ¬valid (tokensOf placed)) (className variant : String) :
    ∃ place, (FaultPlace valid tag.code.length placed place ∧
        ∀ other, FaultPlace valid tag.code.length placed other → other = place) ∧
      compile className variant source =
        .error (fault source.toList (tag.codeStart + place) "syntax error") := by
  obtain ⟨place, found, step⟩ := forest.stepTag_fault language tokens wrong
  refine ⟨place, ⟨found, fun other there => there.unique found⟩, ?_⟩
  have parsed : parse source.toList = .error (tag.codeStart + place, "syntax error") := by
    have failed : forest.step (.tag tag) = .error (tag.codeStart + place, "syntax error") := step
    simp only [parse, scanned, Forest.run_append _ reached, Forest.run, failed]
  unfold compile
  simp only [parsed]

/-- A loop that lacks its second name. -/
def halfLoop : List PlacedToken :=
  [⟨.ident "for", 0⟩, ⟨.ident "i", 4⟩, ⟨.comma, 5⟩, ⟨.inWord, 7⟩, ⟨.ident "y", 10⟩]

/-- The tag of the loop, on the second line of a source. -/
def halfLoopTag : Tag := ⟨.statement, "for i, in y".toList, 5, 2, 19⟩

theorem compile_fault_of_halfLoop :
    FaultPlace Grammar.Statement 11 halfLoop 7 ∧
      compile "Page" "html" "a\n<% for i, in y %>" = .error ⟨2, 11, "syntax error"⟩ := by
  have written : TagText .statement [] " for i, in y ".toList :=
    ⟨by decide, fun _ => rfl, fun _ => rfl⟩
  have none : swallowed " for i, in y ".toList ([] ++ []) = ([] : List Char).length := rfl
  have scanned : segments "a\n<% for i, in y %>".toList =
      .ok ([.text "a\n".toList 0 2] ++ .tag halfLoopTag :: []) :=
    scans_iff.mp (.char (by decide) (.char (by decide) (.tag written none rfl (.done ..))))
  have last (place : Nat) : tokensFrom place [] = .ok [] := by rw [tokensFrom]
  have tokens : tokenize halfLoopTag.code = .ok halfLoop :=
    tokensFrom_cons rfl (tokensFrom_cons rfl (tokensFrom_cons rfl
      (tokensFrom_cons rfl (tokensFrom_cons rfl (last _)))))
  have place : FaultPlace Grammar.Statement 11 halfLoop 7 := by
    let front : List PlacedToken := [⟨.ident "for", 0⟩, ⟨.ident "i", 4⟩, ⟨.comma, 5⟩]
    have possible : Viable Grammar.Statement (tokensOf front) :=
      ⟨[.ident "j", .inWord, .nilWord], Grammar.expression_nil⟩
    have impossible : ¬Viable Grammar.Statement (tokensOf (front ++ [⟨.inWord, 7⟩])) := by
      rintro ⟨_, statement⟩
      exact statement
    exact @FaultPlace.token _ _ _ front [⟨.ident "y", 10⟩] ⟨.inWord, 7⟩ rfl possible impossible
  obtain ⟨found, ⟨-, only⟩, fails⟩ := compile_fault scanned rfl rfl tokens id "Page" "html"
  rw [← only 7 place] at fails
  exact ⟨place, fails⟩

/-- An empty statement is none, and yet it is nothing and no fault. -/
theorem empty_statement_is_nothing :
    segments "<% %>".toList = .ok [.tag ⟨.statement, [], 3, 0, 5⟩] ∧
      tokenize [] = .ok [] ∧ ¬Grammar.Statement (tokensOf []) ∧
      FaultPlace Grammar.Statement 0 [] 0 ∧
      compile "Page" "html" "<% %>" = .ok ⟨"Page", "html", "<% %>", []⟩ := by
  have written : TagText .statement [] [' '] := ⟨by decide, fun _ => rfl, fun _ => rfl⟩
  have none : swallowed [' '] ([] ++ []) = ([] : List Char).length := rfl
  have scanned : segments "<% %>".toList = .ok [.tag ⟨.statement, [], 3, 0, 5⟩] :=
    scans_iff.mp (.tag written none rfl (.done ..))
  have parsed : parse "<% %>".toList = .ok [] := by
    refine parse_eq_ok scanned (fun segment member => ?_) .nil
    rw [List.mem_singleton.mp member]
    exact Or.inl (Or.inr ⟨rfl, rfl⟩)
  refine ⟨scanned, by rw [tokenize, tokensFrom], id, .ending ⟨[.ident "end"], trivial⟩, ?_⟩
  exact compile_eq_ok parsed "Page" "html"

end Template

end ReactiveView
