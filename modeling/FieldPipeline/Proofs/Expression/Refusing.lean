import FieldPipeline.Expression.Check
import FieldPipeline.Proofs.Sequence

/-!
How reading an expression fails.  A text is refused for its syntax, whatever is wrong with it, and
only when it has been read as a whole may its tree turn out to be too deep.
-/

namespace FieldPipeline.Expression

def Refuses {α : Type} (r : Except Fault α) : Prop :=
  ∀ fault, r = .error fault → fault = .badSyntax

namespace Refuses

variable {α β : Type}

@[grind ←]
theorem ok (a : α) : Refuses (.ok a) := nofun

@[grind ←]
theorem badSyntax : Refuses (.error .badSyntax : Except Fault α) := by
  rintro _ ⟨⟩
  rfl

@[grind ←]
theorem bad : Refuses (Parser.bad : Except Fault α) := badSyntax

@[grind ←]
theorem bind {x : Except Fault α} {f : α → Except Fault β} (hx : Refuses x)
    (hf : ∀ a, Refuses (f a)) : Refuses (x >>= f) := by
  intro fault h
  rcases bind_eq_error.mp h with hfault | ⟨a, _, hfault⟩
  · exact hx fault hfault
  · exact hf a fault hfault

@[grind ←]
theorem map {x : Except Fault α} (f : α → β) (hx : Refuses x) : Refuses (x.map f) := fun fault h =>
  hx fault (map_eq_error.mp h)

end Refuses

/-! ### Tokens -/

namespace Token

theorem refuses_text? {cs : List Char} {r : Except Fault (Token × List Char)}
    (h : text? cs = some r) : Refuses r := by
  unfold text? at h
  dsimp only at h
  split at h
  · split at h
    · obtain ⟨marks, _, rfl⟩ := Option.map_eq_some_iff.mp h
      grind
    · cases h
  · cases h

@[grind ←]
theorem refuses_token (cs : List Char) : Refuses (token cs) := by
  unfold token
  split
  · exact refuses_text? ‹_›
  · grind

@[grind ←]
theorem refuses_scanFrom (fuel depth : Nat) (cs : List Char) :
    Refuses (scanFrom fuel depth cs) := by
  induction fuel generalizing depth cs with
  | zero => exact .badSyntax
  | succ fuel ih =>
      rw [scanFrom.eq_def]
      grind

theorem refuses_scan (s : String) : Refuses (scan s) := by
  unfold scan
  grind

end Token

/-! ### Trees -/

namespace Parser

@[grind ←]
theorem refuses_expect (sign : String) (ts : List Token) : Refuses (expect sign ts) := by
  unfold expect
  grind

@[grind ←]
theorem refuses_expectWord (word : String) (ts : List Token) : Refuses (expectWord word ts) := by
  unfold expectWord
  grind

@[grind ←]
theorem refuses_plainLiteral (parts : List (Marks × List Char)) :
    Refuses (plainLiteral parts) := by
  unfold plainLiteral
  grind

/-- Whether every part of the grammar can fail for its syntax only, with so much fuel. -/
structure RefusesWith (n : Nat) : Prop where
  expression : ∀ ts, Refuses (expression n ts)
  named : ∀ ts, Refuses (named n ts)
  starredNamed : ∀ ts, Refuses (starredNamed n ts)
  disjunction : ∀ ts, Refuses (disjunction n ts)
  moreDisjuncts : ∀ ts, Refuses (moreDisjuncts n ts)
  conjunction : ∀ ts, Refuses (conjunction n ts)
  moreConjuncts : ∀ ts, Refuses (moreConjuncts n ts)
  inversion : ∀ ts, Refuses (inversion n ts)
  comparisons : ∀ ts, Refuses (comparisons n ts)
  arithmetic : ∀ level ts, Refuses (arithmetic n level ts)
  moreArithmetic : ∀ level left ts, Refuses (moreArithmetic n level left ts)
  factor : ∀ ts, Refuses (factor n ts)
  awaited : ∀ ts, Refuses (awaited n ts)
  primary : ∀ ts, Refuses (primary n ts)
  suffixes : ∀ e ts, Refuses (suffixes n e ts)
  arguments : ∀ stage first ts, Refuses (arguments n stage first ts)
  subscripts : ∀ ts, Refuses (subscripts n ts)
  subscript : ∀ ts, Refuses (subscript n ts)
  bounds : ∀ most ts, Refuses (bounds n most ts)
  atom : ∀ ts, Refuses (atom n ts)
  group : ∀ ts, Refuses (group n ts)
  yielded : ∀ ts, Refuses (yielded n ts)
  items : ∀ closing ts, Refuses (items n closing ts)
  listDisplay : ∀ ts, Refuses (listDisplay n ts)
  braces : ∀ ts, Refuses (braces n ts)
  entries : ∀ ts, Refuses (entries n ts)
  clauses : ∀ ts, Refuses (clauses n ts)
  targets : ∀ ts, Refuses (targets n ts)
  filters : ∀ ts, Refuses (filters n ts)
  parameters : ∀ p ts, Refuses (parameters n p ts)
  texts : ∀ ts, Refuses (texts n ts)
  insides : ∀ bodies, Refuses (insides n bodies)

namespace RefusesWith

variable {n : Nat}

theorem zero : RefusesWith 0 := by
  constructor
  case insides =>
    intro bodies
    cases bodies with
    | nil => exact .ok []
    | cons body others => exact .bad
  all_goals
    intros
    exact .bad

theorem succ (h : RefusesWith n) : RefusesWith (n + 1) where
  expression ts := by
    rw [Parser.expression]
    grind [RefusesWith]
  named ts := by
    rw [Parser.named.eq_def]
    grind [RefusesWith]
  starredNamed ts := by
    rw [Parser.starredNamed]
    grind [RefusesWith]
  disjunction ts := by
    rw [Parser.disjunction]
    grind [RefusesWith]
  moreDisjuncts ts := by
    rw [Parser.moreDisjuncts]
    grind [RefusesWith]
  conjunction ts := by
    rw [Parser.conjunction]
    grind [RefusesWith]
  moreConjuncts ts := by
    rw [Parser.moreConjuncts]
    grind [RefusesWith]
  inversion ts := by
    rw [Parser.inversion]
    grind [RefusesWith]
  comparisons ts := by
    rw [Parser.comparisons]
    grind [RefusesWith]
  arithmetic level ts := by
    rw [Parser.arithmetic]
    grind [RefusesWith]
  moreArithmetic level left ts := by
    rw [Parser.moreArithmetic.eq_def]
    grind [RefusesWith]
  factor ts := by
    rw [Parser.factor.eq_def]
    grind [RefusesWith]
  awaited ts := by
    rw [Parser.awaited]
    grind [RefusesWith]
  primary ts := by
    rw [Parser.primary]
    grind [RefusesWith]
  suffixes e ts := by
    rw [Parser.suffixes.eq_def]
    grind [RefusesWith]
  arguments stage first ts := by
    rw [Parser.arguments.eq_def]
    grind [RefusesWith]
  subscripts ts := by
    rw [Parser.subscripts]
    grind [RefusesWith]
  subscript ts := by
    rw [Parser.subscript.eq_def]
    grind [RefusesWith]
  bounds most ts := by
    rw [Parser.bounds]
    grind [RefusesWith]
  atom ts := by
    rw [Parser.atom.eq_def]
    grind [RefusesWith]
  group ts := by
    rw [Parser.group.eq_def]
    grind [RefusesWith]
  yielded ts := by
    rw [Parser.yielded.eq_def]
    grind [RefusesWith]
  items closing ts := by
    rw [Parser.items]
    grind [RefusesWith]
  listDisplay ts := by
    rw [Parser.listDisplay]
    grind [RefusesWith]
  braces ts := by
    rw [Parser.braces.eq_def]
    grind [RefusesWith]
  entries ts := by
    rw [Parser.entries]
    split
    all_goals grind [RefusesWith]
  clauses ts := by
    rw [Parser.clauses]
    grind [RefusesWith]
  targets ts := by
    rw [Parser.targets]
    grind [RefusesWith]
  filters ts := by
    rw [Parser.filters]
    grind [RefusesWith]
  parameters p ts := by
    rw [Parser.parameters.eq_def]
    grind [RefusesWith]
  texts ts := by
    rw [Parser.texts.eq_def]
    grind [RefusesWith]
  insides bodies := by
    rw [Parser.insides.eq_def]
    grind [RefusesWith]

theorem all (n : Nat) : RefusesWith n := by
  induction n with
  | zero => exact zero
  | succ n ih => exact ih.succ

end RefusesWith

@[grind ←]
theorem refuses_expression (n : Nat) (ts : List Token) : Refuses (expression n ts) :=
  (RefusesWith.all n).expression ts

@[grind ←]
theorem refuses_more (n : Nat) (ts : List Token) : Refuses (whole.more n ts) := by
  induction n generalizing ts with
  | zero => exact .bad
  | succ n ih =>
      rw [whole.more]
      grind

theorem refuses_whole (n : Nat) (ts : List Token) : Refuses (whole n ts) := by
  cases n with
  | zero => exact .bad
  | succ n =>
      rw [whole]
      grind

end Parser

/-! ### Whole texts -/

def TooDeep (text : String) : Prop :=
  ∃ ts e, Token.scan text = .ok ts ∧ Parser.whole (24 * (text.length + 2)) ts = .ok e ∧
    mostLevels < e.height

theorem parse_error {text : String} {fault : Fault} (h : parse text = .error fault) :
    fault = .badSyntax ∨ fault = .tooDeep ∧ TooDeep text := by
  unfold parse at h
  rcases bind_eq_error.mp h with hscan | ⟨ts, hts, h⟩
  · exact .inl (Token.refuses_scan text fault hscan)
  · rcases bind_eq_error.mp h with hwhole | ⟨e, he, h⟩
    · exact .inl (Parser.refuses_whole _ ts fault hwhole)
    · split at h
      · rename_i hdeep
        cases h
        exact .inr ⟨rfl, ts, e, hts, he, hdeep⟩
      · cases h

theorem Node.problem?_ne_unreadable (n : Node) (fault : Fault) :
    n.problem? ≠ some (.unreadable fault) := by
  cases n with
  | keyword e => exact nofun
  | expr e =>
      unfold Node.problem?
      cases e with
      | name id =>
          dsimp only
          split <;> simp
      | binary op l r => simp
      | call f args keywords =>
          dsimp only
          unfold callProblem?
          grind
      | _ => simp

/-- The only reason why a text cannot be checked at all is the depth of its tree. -/
theorem tooDeep_of_problem? {text : String} {fault : Fault}
    (h : problem? text = some (.unreadable fault)) : fault = .tooDeep ∧ TooDeep text := by
  unfold problem? at h
  split at h
  · cases h
  · split at h
    · cases h
    · rename_i fault' hother hparse
      cases h
      exact (parse_error hparse).resolve_left hother
    · rename_i e _
      obtain ⟨n, _, hn⟩ := List.exists_of_findSome?_eq_some h
      exact absurd hn (n.problem?_ne_unreadable fault)

end FieldPipeline.Expression
