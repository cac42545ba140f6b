import Stencil.Proofs.Render.Congruence

/-!
# The pieces of an output

Where nothing is sent through a filter as a block, the output of a rendering is a sequence of
pieces: texts of the template, which are copied, and values, which are spelled plainly or escaped.
The pieces do not depend on the spelling, for no step looks at what has been written before.

## Main definitions

* `Piece`: a text that is copied, or a value that is written out
* `Piece.spellAll escaped ps`: the spelling of pieces
* `Template.pieces r o s`, `Program.pieces o s`: what is written by a rendering that begins in `s`
* `Options.plain o`, `Options.escaping o`: the same options without and with escaping
* `RenderM.Spells S x y log`: `x` and `y` do the same, but that `x` spells the pieces of `log`
  plainly where `y` escapes them
* `Emission.Allowed S`: the pieces that come from an emission have the property `S`

## Main results

* `RenderM.Spells.bind`, `RenderM.Spells.forEach`: pieces of sequences and loops
* `Node.spells_renderAll`: renderings of nodes that differ in escaping write the same pieces
* `Stmt.spells_execAll`: so do executions of statements
-/

namespace Stencil

variable {α β : Type}

/-- A piece of an output: a text that is copied, or a value that is written out. -/
inductive Piece where
  | text (content : String)
  | value (v : Value)

namespace Piece

/-- The text that is copied. -/
def text? : Piece → Option String
  | .text content => some content
  | .value _ => none

/-- The spelling of a piece. Values may be escaped, texts never are. -/
def spell (escaped : Bool) : Piece → String
  | .text content => content
  | .value v => if escaped then Text.escape v.text else v.text

/-- The spelling of pieces, one behind the other. -/
def spellAll (escaped : Bool) : List Piece → String
  | [] => ""
  | piece :: rest => piece.spell escaped ++ spellAll escaped rest

theorem spellAll_append (escaped : Bool) (ps qs : List Piece) :
    spellAll escaped (ps ++ qs) = spellAll escaped ps ++ spellAll escaped qs := by
  induction ps with
  | nil => exact String.empty_append.symm
  | cons piece rest ih => rw [List.cons_append, spellAll, spellAll, ih, String.append_assoc]

theorem spellAll_singleton (escaped : Bool) (piece : Piece) :
    spellAll escaped [piece] = piece.spell escaped :=
  String.append_empty

end Piece

/-! ## The pieces that are written -/

namespace RenderM

/-- The pieces that are written behind a step, if it succeeds. -/
def piecesAfter (x : RenderM α) (log : α → Run → List Piece) : Run → List Piece := fun s =>
  match x s with
  | (.ok a, t) => log a t
  | (.error _, _) => []

/-- The pieces that are written in the turns of a loop, where `log` tells those of the body. -/
def turnsPieces (o : Options) (binding : String) (body : RenderM Unit) (log : Run → List Piece)
    (count : Nat) : Nat → List Value → Run → List Piece
  | _, [] => fun _ => []
  | index, item :: rest =>
    (turn o).piecesAfter fun _ =>
      (modify fun s =>
        { s with
          context := s.context.bindItem binding item (.ofNat index) (.ofNat count) }).piecesAfter
        fun _ s =>
          log s ++ body.piecesAfter
            (fun _ => turnsPieces o binding body log count (index + 1) rest) s

/-- The pieces that are written by a loop. -/
def forEachPieces (o : Options) (binding : String) (items : List Value) (body : RenderM Unit)
    (log : Run → List Piece) : Run → List Piece := fun s =>
  turnsPieces o binding body log items.length 0 items { s with context := s.context.push }

variable (x : RenderM α) {s t : Run}

theorem piecesAfter_ok {a : α} (h : x s = (.ok a, t)) (log : α → Run → List Piece) :
    x.piecesAfter log s = log a t := by
  rw [piecesAfter, h]

theorem piecesAfter_error {e : RenderError} (h : x s = (.error e, t)) (log : α → Run → List Piece) :
    x.piecesAfter log s = [] := by
  rw [piecesAfter, h]

theorem piecesAfter_nil (s : Run) : x.piecesAfter (fun _ _ => []) s = [] := by
  rw [piecesAfter]
  split <;> rfl

end RenderM

mutual

/-- The pieces that a node writes. A block has no pieces: what it writes depends on how the pieces
inside it are spelled. -/
def Node.pieces (r : Registry) (o : Options) : Node → Run → List Piece
  | .comment _ => fun _ => []
  | .text content _ => (RenderM.tick o).piecesAfter fun _ _ => [.text content]
  | .output expr _ =>
    (RenderM.tick o).piecesAfter fun _ => (expr.eval r).piecesAfter fun v _ => [.value v]
  | .conditional branches _ => (RenderM.tick o).piecesAfter fun _ => Branches.pieces r o branches
  | .loop binding iterable body empty _ =>
    (RenderM.tick o).piecesAfter fun _ => (iterable.evalItems r).piecesAfter fun items =>
      match items with
      | [] => Node.piecesOpt r o empty
      | item :: rest =>
        RenderM.forEachPieces o binding (item :: rest) (Node.renderAll r o body)
          (Node.piecesAll r o body)
  | .filtered _ _ _ => fun _ => []

/-- The pieces that nodes write, one behind the other. -/
def Node.piecesAll (r : Registry) (o : Options) : List Node → Run → List Piece
  | [] => fun _ => []
  | n :: rest => fun s =>
    Node.pieces r o n s ++ (n.render r o).piecesAfter (fun _ => Node.piecesAll r o rest) s

/-- The pieces that a body writes which may be lacking. -/
def Node.piecesOpt (r : Registry) (o : Options) : Option (List Node) → Run → List Piece
  | none => fun _ => []
  | some body => Node.piecesAll r o body

/-- The pieces that the first branch writes whose test holds. -/
def Branches.pieces (r : Registry) (o : Options) : Branches → Run → List Piece
  | .none => fun _ => []
  | .otherwise body => Node.piecesAll r o body
  | .when test body rest =>
    (test.eval r).piecesAfter fun holds =>
      if holds then Node.piecesAll r o body else Branches.pieces r o rest

end

/-- The pieces that a template writes. -/
def Template.pieces (t : Template) (r : Registry) (o : Options) : Run → List Piece :=
  Node.piecesAll r o t

mutual

/-- The pieces that a statement writes. -/
def Stmt.pieces (t : Tables) (o : Options) : Stmt → Run → List Piece
  | .text content _ => (RenderM.tick o).piecesAfter fun _ _ => [.text content]
  | .emit e _ => (RenderM.tick o).piecesAfter fun _ => (e.eval t).piecesAfter fun v _ => [.value v]
  | .conditional arms _ => (RenderM.tick o).piecesAfter fun _ => Arms.pieces t o arms
  | .loop binding iterable body empty _ =>
    (RenderM.tick o).piecesAfter fun _ => (iterable.evalItems t).piecesAfter fun items =>
      match items with
      | [] => Stmt.piecesAll t o empty
      | item :: rest =>
        RenderM.forEachPieces o binding (item :: rest) (Stmt.execAll t o body)
          (Stmt.piecesAll t o body)

/-- The pieces that statements write, one behind the other. -/
def Stmt.piecesAll (t : Tables) (o : Options) : List Stmt → Run → List Piece
  | [] => fun _ => []
  | s :: rest => fun u =>
    Stmt.pieces t o s u ++ (s.exec t o).piecesAfter (fun _ => Stmt.piecesAll t o rest) u

/-- The pieces that the first body writes whose test holds. -/
def Arms.pieces (t : Tables) (o : Options) : Arms → Run → List Piece
  | .otherwise body => Stmt.piecesAll t o body
  | .arm test body rest =>
    (test.eval t).piecesAfter fun v =>
      if v.isTruthy then Stmt.piecesAll t o body else Arms.pieces t o rest

end

/-- The pieces that a program writes. -/
def Program.pieces (p : Program) (o : Options) : Run → List Piece :=
  Stmt.piecesAll p.tables o p.body

/-! ## Two spellings -/

namespace Options

/-- The same options without escaping. -/
def plain (o : Options) : Options :=
  { o with autoescape := false }

/-- The same options with escaping. -/
def escaping (o : Options) : Options :=
  { o with autoescape := true }

end Options

/-- The steps do the same but for what they write: `x` appends the pieces of `log` in their plain
spelling, and `y`, started with whatever output, appends them escaped. The pieces have the property
`S`. -/
structure RenderM.Spells (S : Piece → Prop) (x y : RenderM α) (log : Run → List Piece) : Prop where
  plain : ∀ s, (x s).2.output = s.output ++ Piece.spellAll false (log s)
  escaped : ∀ s output,
    y { s with output } =
      ((x s).1, { (x s).2 with output := output ++ Piece.spellAll true (log s) })
  allowed : ∀ s, ∀ piece ∈ log s, S piece

namespace RenderM.Spells

variable {S : Piece → Prop}

/-- A step that neither reads nor writes the output writes no pieces. -/
theorem of_output_frame {x : RenderM α}
    (hx : ∀ s output, x { s with output } = ((x s).1, { (x s).2 with output })) :
    Spells S x x fun _ => [] where
  plain s := by
    -- Replacing the output by itself shows that the step leaves it alone.
    have h := congrArg (fun result => result.2.output) (hx s s.output)
    rw [Piece.spellAll, String.append_empty]
    exact h
  escaped s output := by
    rw [Piece.spellAll, String.append_empty]
    exact hx s output
  allowed _ _ h := (List.not_mem_nil h).elim

theorem pure (a : α) : Spells S (Pure.pure a) (Pure.pure a) fun _ => [] :=
  of_output_frame fun _ _ => rfl

theorem ofExcept (result : Except RenderError α) :
    Spells S (RenderM.ofExcept result) (RenderM.ofExcept result) fun _ => [] :=
  of_output_frame fun _ _ => rfl

/-- **A sequence writes the pieces of its first step and then, if that succeeds, those of its second
step.** -/
theorem bind {x y : RenderM α} {f g : α → RenderM β} {log : Run → List Piece}
    {more : α → Run → List Piece} (hxy : Spells S x y log)
    (hfg : ∀ a u, (x u).1 = .ok a → Spells S (f a) (g a) (more a)) :
    Spells S (x >>= f) (y >>= g) fun s => log s ++ x.piecesAfter more s := by
  refine ⟨fun s => ?_, fun s output => ?_, fun s piece hpiece => ?_⟩
  · -- The second step goes on behind the plain pieces of the first one.
    have hplain := hxy.plain s
    rcases hx : x s with ⟨e | a, t⟩
    · rw [bind_apply_error x f s hx, piecesAfter_error x hx, List.append_nil]
      rwa [hx] at hplain
    · rw [bind_apply_ok x f s hx, piecesAfter_ok x hx, Piece.spellAll_append,
        ← String.append_assoc, (hfg a s (by rw [hx])).plain t]
      rw [hx] at hplain
      rw [hplain]
  · -- On the other side it goes on in the same run, but behind the escaped pieces.
    have hescaped := hxy.escaped s output
    rcases hx : x s with ⟨e | a, t⟩
    · rw [hx] at hescaped
      rw [bind_apply_error x f s hx, bind_apply_error y g _ hescaped, piecesAfter_error x hx,
        List.append_nil]
    · rw [hx] at hescaped
      rw [bind_apply_ok x f s hx, bind_apply_ok y g _ hescaped, piecesAfter_ok x hx,
        Piece.spellAll_append, ← String.append_assoc]
      exact (hfg a s (by rw [hx])).escaped t _
  · rcases List.mem_append.mp hpiece with hpiece | hpiece
    · exact hxy.allowed s piece hpiece
    · rcases hx : x s with ⟨e | a, t⟩
      · rw [piecesAfter_error x hx] at hpiece
        exact (List.not_mem_nil hpiece).elim
      · rw [piecesAfter_ok x hx] at hpiece
        exact (hfg a s (by rw [hx])).allowed t piece hpiece

/-- A sequence whose first step writes nothing. -/
theorem bind_quiet {x y : RenderM α} {f g : α → RenderM β} {more : α → Run → List Piece}
    (hxy : Spells S x y fun _ => [])
    (hfg : ∀ a u, (x u).1 = .ok a → Spells S (f a) (g a) (more a)) :
    Spells S (x >>= f) (y >>= g) (x.piecesAfter more) :=
  hxy.bind hfg

theorem located {x y : RenderM α} {log : Run → List Piece} (pos : Position)
    (hxy : Spells S x y log) : Spells S (RenderM.located pos x) (RenderM.located pos y) log := by
  refine ⟨fun s => ?_, fun s output => Prod.ext ?_ ?_, hxy.allowed⟩
  · rw [located_state]
    exact hxy.plain s
  · rw [located_result, located_result, hxy.escaped s output]
  · rw [located_state, located_state, hxy.escaped s output]

/-- In a frame of its own, a step writes the pieces that it writes in the run with that frame. -/
theorem inFrame {x y : RenderM α} {log : Run → List Piece} (hxy : Spells S x y log) :
    Spells S (RenderM.inFrame x) (RenderM.inFrame y) fun s =>
      log { s with context := s.context.push } := by
  refine ⟨fun s => ?_, fun s output => ?_, fun s => hxy.allowed _⟩
  · exact hxy.plain { s with context := s.context.push }
  · have hescaped := hxy.escaped { s with context := s.context.push } output
    rw [RenderM.inFrame, hescaped]
    rfl

theorem text {content : String} (h : S (.text content)) :
    Spells S (RenderM.append content) (RenderM.append content) fun _ => [.text content] where
  plain s := by
    rw [Piece.spellAll_singleton]
    rfl
  escaped s output := by
    rw [Piece.spellAll_singleton]
    rfl
  allowed _ piece hpiece := by rwa [List.mem_singleton.mp hpiece]

section Options

variable {o : Options}

theorem tick : Spells S (RenderM.tick o.plain) (RenderM.tick o.escaping) fun _ => [] :=
  of_output_frame fun _ _ => rfl

theorem turn : Spells S (RenderM.turn o.plain) (RenderM.turn o.escaping) fun _ => [] :=
  of_output_frame fun _ _ => rfl

/-- A value is the only piece that is spelled in two ways. -/
theorem value {v : Value} (h : S (.value v)) :
    Spells S (RenderM.emit o.plain v) (RenderM.emit o.escaping v) fun _ => [.value v] where
  plain s := by
    rw [Piece.spellAll_singleton]
    rfl
  escaped s output := by
    rw [Piece.spellAll_singleton]
    rfl
  allowed _ piece hpiece := by rwa [List.mem_singleton.mp hpiece]

theorem evaluation {x y : RenderM Unit} {log : Run → List Piece} (pos : Position)
    (hxy : Spells S x y log) :
    Spells S (RenderM.evaluation o.plain pos x) (RenderM.evaluation o.escaping pos y)
      ((RenderM.tick o.plain).piecesAfter fun _ => log) :=
  located pos (tick.bind_quiet fun _ _ _ => hxy)

/-- **A loop writes the pieces of its turns, one after the other.** -/
theorem forEach {x y : RenderM Unit} {log : Run → List Piece} (binding : String)
    (items : List Value) (hxy : Spells S x y log) :
    Spells S (RenderM.forEach o.plain binding items x) (RenderM.forEach o.escaping binding items y)
      (RenderM.forEachPieces o.plain binding items x log) := by
  have hturns (index : Nat) (rest : List Value) :
      Spells S (turns o.plain binding x items.length index rest)
        (turns o.escaping binding y items.length index rest)
        (turnsPieces o.plain binding x log items.length index rest) := by
    induction rest generalizing index with
    | nil => exact pure ()
    | cons item rest ih =>
      -- A turn begins without output: it is counted, and its item is bound.
      refine turn.bind_quiet fun _ _ _ => bind_quiet ?_ fun _ _ _ => ?_
      · exact of_output_frame fun _ _ => rfl
      · exact hxy.bind fun _ _ _ => ih (index + 1)
  exact (hturns 0 items).inFrame

/-- Steps that write no pieces do the same with and without escaping, however they are put
together. -/
theorem congruence_quiet (S : Piece → Prop) (o : Options) :
    Congruence o.plain o.escaping fun x y => Spells S x y fun _ => [] := by
  have hcomposes : Composes fun x y => Spells S x y fun _ => [] := {
    pure := pure
    ofExcept := ofExcept
    bind := fun {_ _ x _ _ _} hxy hfg => by
      -- Behind a step that writes nothing comes another one.
      have h := hxy.bind_quiet fun a _ _ => hfg a
      rwa [funext x.piecesAfter_nil] at h
    located := located }
  refine { hcomposes with
    resolve := fun p => of_output_frame fun s output => ?_
    resolveOr := fun _ _ => of_output_frame fun _ _ => rfl
    call := fun _ _ _ => of_output_frame fun _ _ => rfl
    tick := tick
    forEach := hcomposes.forEach _ _ turn (fun _ _ _ _ => of_output_frame fun _ _ => rfl)
      fun _ _ => inFrame }
  simp only [RenderM.resolve]
  cases s.context.find? p <;> rfl

end Options

end RenderM.Spells

open RenderM (Spells)

/-- The pieces that come from an emission have the property `S`, where values are evaluated by `ev`.
There are none that come from a block. -/
def Emission.Allowed {ε γ : Type} (S : Piece → Prop) (ev : ε → RenderM Value) :
    Emission ε γ → Prop
  | .text content => S (.text content)
  | .value e => ∀ v u, (ev e u).1 = .ok v → S (.value v)
  | .block _ => False

section Renderers

variable {S : Piece → Prop} (o : Options)

/-! ## Trees -/

variable (r : Registry)

mutual

theorem Node.spells_render (n : Node)
    (hn : ∀ l ∈ n.emissions, l.Allowed S (FilterExpr.eval r)) :
    Spells S (n.render r o.plain) (n.render r o.escaping) (n.pieces r o.plain) := by
  match n with
  | .comment pos =>
    rw [Node.render, Node.render, Node.pieces]
    exact .pure ()
  | .text content pos =>
    rw [Node.emissions] at hn
    rw [Node.render, Node.render, Node.pieces]
    exact .evaluation _ (.text (hn _ List.mem_cons_self))
  | .output expr pos =>
    rw [Node.emissions] at hn
    rw [Node.render, Node.render, Node.pieces]
    have hexpr := expr.related_eval (Spells.congruence_quiet S o) r
    refine .evaluation _ (hexpr.bind_quiet fun v u hv => ?_)
    exact .value (hn _ List.mem_cons_self v u hv)
  | .conditional branches pos =>
    rw [Node.emissions] at hn
    rw [Node.render, Node.render, Node.pieces]
    exact .evaluation _ (Branches.spells_render branches hn)
  | .loop binding iterable body empty pos =>
    rw [Node.emissions] at hn
    rw [Node.render, Node.render, Node.pieces]
    have hitems := iterable.related_evalItems (Spells.congruence_quiet S o) r
    refine .evaluation _ (hitems.bind_quiet fun items _ _ => ?_)
    cases items with
    | nil => exact Node.spells_renderOpt empty fun l hl => hn l (by simp [hl])
    | cons item rest =>
      exact .forEach binding (item :: rest)
        (Node.spells_renderAll body fun l hl => hn l (by simp [hl]))
  | .filtered call body pos =>
    -- The pieces of a block are excluded by what is allowed of its emission.
    rw [Node.emissions] at hn
    exact (hn (.block call) (by simp)).elim

/-- **Renderings of nodes that differ in escaping write the same pieces**, and do the same
otherwise, if none of the nodes is a block. -/
theorem Node.spells_renderAll (ns : List Node)
    (hns : ∀ l ∈ Node.emissionsAll ns, l.Allowed S (FilterExpr.eval r)) :
    Spells S (Node.renderAll r o.plain ns) (Node.renderAll r o.escaping ns)
      (Node.piecesAll r o.plain ns) := by
  match ns with
  | [] =>
    rw [Node.renderAll, Node.renderAll, Node.piecesAll]
    exact .pure ()
  | n :: rest =>
    rw [Node.emissionsAll] at hns
    rw [Node.renderAll, Node.renderAll, Node.piecesAll]
    exact (Node.spells_render n fun l hl => hns l (by simp [hl])).bind fun _ _ _ =>
      Node.spells_renderAll rest fun l hl => hns l (by simp [hl])

theorem Node.spells_renderOpt (ns : Option (List Node))
    (hns : ∀ l ∈ Node.emissionsOpt ns, l.Allowed S (FilterExpr.eval r)) :
    Spells S (Node.renderOpt r o.plain ns) (Node.renderOpt r o.escaping ns)
      (Node.piecesOpt r o.plain ns) := by
  match ns with
  | none =>
    rw [Node.renderOpt, Node.renderOpt, Node.piecesOpt]
    exact .pure ()
  | some body =>
    rw [Node.emissionsOpt] at hns
    rw [Node.renderOpt, Node.renderOpt, Node.piecesOpt]
    exact Node.spells_renderAll body hns

theorem Branches.spells_render (b : Branches)
    (hb : ∀ l ∈ b.emissions, l.Allowed S (FilterExpr.eval r)) :
    Spells S (b.render r o.plain) (b.render r o.escaping) (b.pieces r o.plain) := by
  match b with
  | .none =>
    rw [Branches.render, Branches.render, Branches.pieces]
    exact .pure ()
  | .otherwise body =>
    rw [Branches.emissions] at hb
    rw [Branches.render, Branches.render, Branches.pieces]
    exact Node.spells_renderAll body hb
  | .when test body rest =>
    rw [Branches.emissions] at hb
    rw [Branches.render, Branches.render, Branches.pieces]
    refine (test.related_eval (Spells.congruence_quiet S o) r).bind_quiet fun holds _ _ => ?_
    cases holds with
    | false => exact Branches.spells_render rest fun l hl => hb l (by simp [hl])
    | true => exact Node.spells_renderAll body fun l hl => hb l (by simp [hl])

end

/-! ## Programs -/

variable (t : Tables)

mutual

theorem Stmt.spells_exec (s : Stmt) (hs : ∀ l ∈ s.emissions, l.Allowed S (Expr.eval t)) :
    Spells S (s.exec t o.plain) (s.exec t o.escaping) (s.pieces t o.plain) := by
  match s with
  | .text content pos =>
    rw [Stmt.emissions] at hs
    rw [Stmt.exec, Stmt.exec, Stmt.pieces]
    exact .evaluation pos (.text (hs _ List.mem_cons_self))
  | .emit e pos =>
    rw [Stmt.emissions] at hs
    rw [Stmt.exec, Stmt.exec, Stmt.pieces]
    have hexpr := e.related_eval (Spells.congruence_quiet S o) t
    refine .evaluation pos (hexpr.bind_quiet fun v u hv => ?_)
    exact .value (hs _ List.mem_cons_self v u hv)
  | .conditional arms pos =>
    rw [Stmt.emissions] at hs
    rw [Stmt.exec, Stmt.exec, Stmt.pieces]
    exact .evaluation pos (Arms.spells_exec arms hs)
  | .loop binding iterable body empty pos =>
    rw [Stmt.emissions] at hs
    rw [Stmt.exec, Stmt.exec, Stmt.pieces]
    have hitems := iterable.related_evalItems (Spells.congruence_quiet S o) t
    refine .evaluation pos (hitems.bind_quiet fun items _ _ => ?_)
    cases items with
    | nil => exact Stmt.spells_execAll empty fun l hl => hs l (by simp [hl])
    | cons item rest =>
      exact .forEach binding (item :: rest)
        (Stmt.spells_execAll body fun l hl => hs l (by simp [hl]))

/-- **Executions of statements that differ in escaping write the same pieces**, and do the same
otherwise. -/
theorem Stmt.spells_execAll (ss : List Stmt)
    (hss : ∀ l ∈ Stmt.emissionsAll ss, l.Allowed S (Expr.eval t)) :
    Spells S (Stmt.execAll t o.plain ss) (Stmt.execAll t o.escaping ss)
      (Stmt.piecesAll t o.plain ss) := by
  match ss with
  | [] =>
    rw [Stmt.execAll, Stmt.execAll, Stmt.piecesAll]
    exact .pure ()
  | s :: rest =>
    rw [Stmt.emissionsAll] at hss
    rw [Stmt.execAll, Stmt.execAll, Stmt.piecesAll]
    exact (Stmt.spells_exec s fun l hl => hss l (by simp [hl])).bind fun _ _ _ =>
      Stmt.spells_execAll rest fun l hl => hss l (by simp [hl])

theorem Arms.spells_exec (arms : Arms)
    (harms : ∀ l ∈ arms.emissions, l.Allowed S (Expr.eval t)) :
    Spells S (arms.exec t o.plain) (arms.exec t o.escaping) (arms.pieces t o.plain) := by
  match arms with
  | .otherwise body =>
    rw [Arms.emissions] at harms
    rw [Arms.exec, Arms.exec, Arms.pieces]
    exact Stmt.spells_execAll body harms
  | .arm test body rest =>
    rw [Arms.emissions] at harms
    rw [Arms.exec, Arms.exec, Arms.pieces]
    refine (test.related_eval (Spells.congruence_quiet S o) t).bind_quiet fun v _ _ => ?_
    cases v.isTruthy with
    | false => exact Arms.spells_exec rest fun l hl => harms l (by simp [hl])
    | true => exact Stmt.spells_execAll body fun l hl => harms l (by simp [hl])

end

end Renderers

end Stencil
