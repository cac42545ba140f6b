import Stencil.Filter.Standard
import Stencil.Program.Compile
import Stencil.Proofs.Render.Pieces
import Stencil.Proofs.Text.Markup

/-!
# What escaping changes

Two renderings that differ only in whether values are escaped end with the same result, the same
counts and the same variables. Their outputs consist of the same pieces: texts of the template,
which are the same in both, and values, which are spelled plainly in one and escaped in the other.
So what is markup in an escaped output comes from the texts of the template. A program writes the
texts of the template it was compiled from, so the same holds of programs.

## Main definitions

* `Template.Emits t r v`, `Program.Emits p v`: the value is one of an expression that is written out
* `Piece.From texts Emitted`: a piece is one of the texts, or a value that is emitted
* `Run.Respelled s texts Emitted pieces plain escaped`: the second outcome is the first one with
  values escaped
* `CompileM.Gives x P`: what a part of a compilation gives has the property `P`

## Main results

* `Piece.filter_isMarkup_spellAll`: the markup of escaped pieces is that of the texts among them
* `Template.texts_of_compile`: a program has the texts of its template
* `autoescape_respells_values`: escaping changes only how values are spelled
-/

namespace Stencil

/-- **The markup of escaped pieces is that of the texts among them.** -/
theorem Piece.filter_isMarkup_spellAll (ps : List Piece) :
    (Piece.spellAll true ps).toList.filter Text.isMarkup =
      (ps.filterMap Piece.text?).flatMap fun content => content.toList.filter Text.isMarkup := by
  induction ps with
  | nil => rfl
  | cons piece rest ih =>
    rw [Piece.spellAll, String.toList_append, List.filter_append, ih]
    cases piece with
    | text content => rfl
    | value v =>
      -- Nothing is left of an escaped value.
      have hnone : (Text.escape v.text).toList.filter Text.isMarkup = [] :=
        List.filter_eq_nil_iff.mpr fun c hc => by simp [Text.clean_escape v.text c hc]
      exact (congrArg (· ++ _) hnone).trans (List.nil_append _)

/-! ## The texts of programs -/

/-- Where this part of a compilation succeeds, what it gives has the property `P`. -/
def CompileM.Gives {α : Type} (x : CompileM α) (P : α → Prop) : Prop :=
  ∀ t a t', x t = .ok (a, t') → P a

namespace CompileM.Gives

variable {α β : Type} {P : α → Prop} {Q : β → Prop}

theorem pure {a : α} (h : P a) : Gives (Pure.pure a) P := by
  intro t b t' hb
  obtain ⟨rfl, rfl⟩ := Prod.mk.inj (Except.ok.inj hb)
  exact h

theorem bind {x : CompileM α} {f : α → CompileM β} (hx : Gives x P)
    (hf : ∀ a, P a → Gives (f a) Q) : Gives (x >>= f) Q := by
  intro t b t' h
  simp only [Bind.bind] at h
  split at h
  · next a u hu => exact hf a (hx t a u hu) u b t' h
  · cases h

/-- What stands before the last part does not matter if nothing is known of it. -/
theorem bind_any {x : CompileM α} {f : α → CompileM β} (hf : ∀ a, Gives (f a) Q) :
    Gives (x >>= f) Q :=
  bind (fun _ _ _ _ => trivial) fun a _ => hf a

theorem error (e : CompileError) : Gives (CompileM.ofExcept (.error e)) P := by
  intro t a t' h
  cases h

end CompileM.Gives

open CompileM (Gives)

theorem Stmt.emissionsAll_append (ss ss' : List Stmt) :
    Stmt.emissionsAll (ss ++ ss') = Stmt.emissionsAll ss ++ Stmt.emissionsAll ss' := by
  induction ss with
  | nil => rfl
  | cons s rest ih => rw [List.cons_append, Stmt.emissionsAll, Stmt.emissionsAll, ih,
      List.append_assoc]

section Compile

variable (r : Registry) (c : CompileOptions)

mutual

theorem Node.gives_compile (n : Node) :
    Gives (n.compile r c) fun stmt =>
      (Stmt.emissionsAll stmt.toList).filterMap Emission.text? =
        n.emissions.filterMap Emission.text? := by
  match n with
  | .text content pos => exact .pure rfl
  | .comment pos => exact .pure rfl
  | .output expr pos =>
    -- An output has no text, whatever its expression is compiled to.
    exact .bind_any fun e => .pure rfl
  | .conditional branches pos =>
    refine (Branches.gives_compile branches).bind fun arms harms => .pure ?_
    simpa [Stmt.emissionsAll, Stmt.emissions, Node.emissions] using harms
  | .loop binding iterable body empty pos =>
    refine .bind_any fun e => (Node.gives_compileAll body).bind fun inner hinner => ?_
    refine (Node.gives_compileOpt empty).bind fun lacking hlacking => .pure ?_
    simp [Stmt.emissionsAll, Stmt.emissions, Node.emissions, hinner, hlacking]
  | .filtered call body pos => exact .error _

/-- **The statements of nodes have the texts of the nodes**, in the same order. -/
theorem Node.gives_compileAll (ns : List Node) :
    Gives (Node.compileAll r c ns) fun stmts =>
      (Stmt.emissionsAll stmts).filterMap Emission.text? =
        (Node.emissionsAll ns).filterMap Emission.text? := by
  match ns with
  | [] => exact .pure rfl
  | n :: rest =>
    refine (Node.gives_compile n).bind fun stmt hstmt => ?_
    refine (Node.gives_compileAll rest).bind fun stmts hstmts => .pure ?_
    rw [Stmt.emissionsAll_append, Node.emissionsAll, List.filterMap_append, List.filterMap_append,
      hstmt, hstmts]

theorem Node.gives_compileOpt (ns : Option (List Node)) :
    Gives (Node.compileOpt r c ns) fun stmts =>
      (Stmt.emissionsAll stmts).filterMap Emission.text? =
        (Node.emissionsOpt ns).filterMap Emission.text? := by
  match ns with
  | none => exact .pure rfl
  | some body => exact Node.gives_compileAll body

theorem Branches.gives_compile (b : Branches) :
    Gives (b.compile r c) fun arms =>
      arms.emissions.filterMap Emission.text? = b.emissions.filterMap Emission.text? := by
  match b with
  | .none => exact .pure rfl
  | .otherwise body =>
    exact (Node.gives_compileAll body).bind fun inner hinner => .pure hinner
  | .when test body rest =>
    refine .bind_any fun e => (Node.gives_compileAll body).bind fun inner hinner => ?_
    refine (Branches.gives_compile rest).bind fun arms harms => .pure ?_
    simp [Arms.emissions, Branches.emissions, hinner, harms]

end

end Compile

/-- **A program has the texts of the template it was compiled from.** -/
theorem Template.texts_of_compile {t : Template} {r : Registry} {c : CompileOptions}
    {name : Option String} {p : Program} (hcompile : t.compile r c name = .ok p) :
    p.texts = t.texts := by
  obtain ⟨-, hbody⟩ := Template.compile_eq_ok_iff.mp hcompile
  exact Node.gives_compileAll r c t {} p.body p.tables hbody

/-! ## Two spellings of one rendering -/

/-- The value is one of an expression that the template writes out. -/
def Template.Emits (t : Template) (r : Registry) (v : Value) : Prop :=
  ∃ e u, .value e ∈ t.emissions ∧ (e.eval r u).1 = .ok v

/-- The value is one of an expression that the program writes out. -/
def Program.Emits (p : Program) (v : Value) : Prop :=
  ∃ e u, .value e ∈ p.emissions ∧ (e.eval p.tables u).1 = .ok v

/-- The piece is one of the texts, or a value that is emitted. -/
def Piece.From (texts : List String) (Emitted : Value → Prop) : Piece → Prop
  | .text content => content ∈ texts
  | .value v => Emitted v

/-- Of two outcomes of a rendering that began in `s`, the second one is the first one with values
escaped: both have written the pieces, each of them a text of the template or a value that is
emitted, and they are the same in every other respect. What is markup behind the output of `s` comes
from the texts among the pieces, in this order. -/
structure Run.Respelled (s : Run) (texts : List String) (Emitted : Value → Prop)
    (pieces : List Piece) (plain escaped : Except RenderError Unit × Run) : Prop where
  pieces_from : ∀ piece ∈ pieces, piece.From texts Emitted
  plain_output : plain.2.output = s.output ++ Piece.spellAll false pieces
  escaped_eq :
    escaped = (plain.1, { plain.2 with output := s.output ++ Piece.spellAll true pieces })
  markup : escaped.2.output.toList.filter Text.isMarkup =
    s.output.toList.filter Text.isMarkup ++
      (pieces.filterMap Piece.text?).flatMap fun content => content.toList.filter Text.isMarkup

/-- Steps that spell the same pieces in two ways end so. -/
theorem RenderM.Spells.respelled {texts : List String} {Emitted : Value → Prop}
    {x y : RenderM Unit} {log : Run → List Piece}
    (h : RenderM.Spells (Piece.From texts Emitted) x y log) (s : Run) :
    s.Respelled texts Emitted (log s) (x s) (y s) := by
  have hescaped : y s =
      ((x s).1, { (x s).2 with output := s.output ++ Piece.spellAll true (log s) }) :=
    h.escaped s s.output
  refine ⟨h.allowed s, h.plain s, hescaped, ?_⟩
  rw [hescaped, String.toList_append, List.filter_append, Piece.filter_isMarkup_spellAll]

/-- **Escaping changes only how values are spelled.** The pieces that a template without blocks
writes are the same with and without escaping, and so is everything else about the two renderings;
this holds of every program compiled from the template, too. An escaped text has no markup in it,
and escaping can be undone. -/
theorem autoescape_respells_values (t : Template) (hblocks : t.blocks = []) (r : Registry)
    (o : Options) (s : Run) :
    s.Respelled t.texts (t.Emits r) (t.pieces r o.plain s) (t.render r o.plain s)
        (t.render r o.escaping s) ∧
      (∀ c name p, t.compile r c name = .ok p →
        s.Respelled t.texts p.Emits (p.pieces o.plain s) (p.execute o.plain s)
          (p.execute o.escaping s)) ∧
      ∀ text : String, Text.Clean (Text.escape text) ∧
        Text.unescape (Text.escape text) = text := by
  refine ⟨(Node.spells_renderAll o r t ?_).respelled s, fun c name p hcompile => ?_, fun text =>
    ⟨Text.clean_escape text, Text.unescape_escape text⟩⟩
  · rintro (content | e | call) hmem
    · exact Emission.mem_filterMap_text?.mpr hmem
    · exact fun v u hv => ⟨e, u, hmem, hv⟩
    · have hcall : call ∈ t.blocks := Emission.mem_filterMap_block?.mpr hmem
      rw [hblocks] at hcall
      exact (List.not_mem_nil hcall).elim
  · -- A text of the program is one of the template, and there are no blocks in a program.
    refine (Stmt.spells_execAll o p.tables p.body ?_).respelled s
    rintro (content | e | call) hmem
    · have htext : content ∈ p.texts := Emission.mem_filterMap_text?.mpr hmem
      rwa [Template.texts_of_compile hcompile] at htext
    · exact fun v u hv => ⟨e, u, hmem, hv⟩
    · exact call.elim

/-- A text, a loop over two values, then an output that fails for want of its argument: the tree and
the program write five pieces and fail, with and without escaping. -/
theorem autoescape_respells_values_loop :
    let t : Template := [
      .text "<p>" none,
      .loop "i" ⟨⟨.literal (.array [.string "a<b", .string "c&d"]), none⟩, []⟩
        [.output ⟨⟨.variable ⟨"i", []⟩, none⟩, []⟩ none, .text "<br>" none] none none,
      .output ⟨⟨.variable ⟨"x", []⟩, none⟩,
        [⟨"default", some ⟨.variable ⟨"y", []⟩, none⟩, none⟩]⟩ none]
    let o : Options := {}
    t.blocks = [] ∧
      (t.pieces .standard o.plain {}).map (Piece.spell false) =
        ["<p>", "a<b", "<br>", "c&d", "<br>"] ∧
      (t.render .standard o.escaping {}).2.output = "<p>a&lt;b<br>c&amp;d<br>" ∧
      (t.render .standard o.escaping {}).1.toBool = false ∧
      Run.Respelled {} t.texts (t.Emits .standard) (t.pieces .standard o.plain {})
        (t.render .standard o.plain {}) (t.render .standard o.escaping {}) ∧
      ∃ p, t.compile .standard {} none = .ok p ∧
        (p.execute o.escaping {}).2.output = "<p>a&lt;b<br>c&amp;d<br>" ∧
        Run.Respelled {} t.texts p.Emits (p.pieces o.plain {}) (p.execute o.plain {})
          (p.execute o.escaping {}) := by
  intro t o
  have hblocks : t.blocks = [] := rfl
  obtain ⟨htree, hprogram, -⟩ := autoescape_respells_values t hblocks .standard o {}
  refine ⟨hblocks, by decide +kernel, by decide +kernel, by decide +kernel, htree, _, rfl,
    by decide +kernel, ?_⟩
  exact hprogram {} none _ rfl

end Stencil
