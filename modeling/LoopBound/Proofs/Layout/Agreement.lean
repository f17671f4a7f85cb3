import LoopBound.Proofs.Layout.Literals
import LoopBound.Proofs.Layout.Padding

/-!
# The layout is what is printed

The layout is indented at the end, once; the plain printer pads line by line as it goes. They come
to the same: to the same error at the same node, or to the same text. For each kind of node the two
take the same steps (`Same`), and the results of each step are related: fragments to texts that read
the same at the depth where they stand, lines to buffers that hold them.
-/

namespace LoopBound.Layout

open LoopBound.Syntax
open Fragment (Reads ReadsAll reads_ofText reads_literal reads_join reads_objectOf)

/-! ## Two printings side by side -/

section

variable {α β γ δ ε : Type} {R : α → β → Prop} {S : γ → δ → Prop}

/-- Two printings come to the same: to one error, or to results that are related. -/
inductive Same (R : α → β → Prop) : Printing α → Printing β → Prop
  | error (x : PrintError) : Same R (.error x) (.error x)
  | ok {a : α} {b : β} : R a b → Same R (.ok a) (.ok b)

theorem Same.bind {x : Printing α} {y : Printing β} {f : α → Printing γ} {g : β → Printing δ}
    (h : Same R x y) (hnext : ∀ a b, R a b → Same S (f a) (g b)) :
    Same S (x >>= f) (y >>= g) := by
  cases h with
  | error x => exact .error x
  | ok hab => exact hnext _ _ hab

/-- Both go on with the result of one and the same step. -/
theorem Same.shared {x : Printing ε} {f : ε → Printing α} {g : ε → Printing β}
    (h : ∀ c, Same R (f c) (g c)) : Same R (x >>= f) (x >>= g) := by
  cases x with
  | error x => exact .error x
  | ok c => exact h c

/-- The layout puts something together where the plain printer is done. -/
theorem Same.map {T : γ → β → Prop} {x : Printing α} {y : Printing β} {g : α → γ}
    (h : Same R x y) (hg : ∀ a b, R a b → T (g a) b) : Same T (x >>= fun a => .ok (g a)) y := by
  cases h with
  | error x => exact .error x
  | ok hab => exact .ok (hg _ _ hab)

/-- What goes on after two steps of which the plain printer makes one. -/
theorem Same.after {x : Printing ε} {f : ε → Printing α} {y : Printing β} {g : α → Printing γ}
    {k : β → Printing δ} (h : Same R (x >>= f) y) (hnext : ∀ a b, R a b → Same S (g a) (k b)) :
    Same S (x >>= fun c => f c >>= g) (y >>= k) := by
  rw [← bind_assoc]
  exact h.bind hnext

end

variable {indent depth k : Nat}

/-- What a node prints, and what visiting it comes to when it stands at a place in a buffer. Its
literals stand in both. -/
inductive Shows (indent depth k : Nat) (n : Node) (e : Emitter) : Output → Visited → Prop
  | lines {b : Lines} {e' : Emitter} : Put indent depth (literals n) e b e' →
      Shows indent depth k n e (.lines b) (.wrote e')
  | block {inner : Lines} {isEmpty : Bool} {e' : Emitter} : isBlock n = true →
      Put indent depth (literals n) e (if isEmpty then .line "\x7b\x7d"
        else .line "\x7b" ++ inner.indented ++ .line "\x7d") e' →
      Shows indent depth k n e (.block inner isEmpty) (.wrote e')
  | declaration {f : Fragment} {s : String} : f.Reads indent (depth + k) (literals n) s →
      Shows indent depth k n e (.declaration f) (.declaration s)
  | text {f : Fragment} {s : String} : f.Reads indent (depth + k) (literals n) s →
      Shows indent depth k n e (.text f) (.text s)

/-- The node prints the same in the layout and in a buffer, wherever that stands. -/
def Agrees (indent depth k : Nat) (n : Node) (e : Emitter) : Prop :=
  Same (Shows indent depth k n e) (print n) (visit n e k)

section

variable {n body : Node} {e e₁ : Emitter} {f : Fragment} {s : String} {ws vs : List String}

theorem Agrees.statement (h : Agrees indent depth 0 n e) (he : e.At indent depth) :
    Same (Put indent depth (literals n) e) (print n >>= fun o => o.asStatement n)
      (writeStatement n e (visit n e 0)) := by
  refine h.bind fun o v hshows => ?_
  cases hshows with
  | lines hput => exact .ok hput
  | block _ hput => exact .ok hput
  | declaration hf => exact .ok (Put.emit he (hf.followed ";"))
  | text hf => exact .error _

theorem Agrees.expression (h : Agrees indent depth k n e) :
    Same (Reads indent (depth + k) (literals n)) (print n >>= fun o => o.asExpression n)
      (writeExpression n (visit n e k)) := by
  refine h.bind fun o v hshows => ?_
  cases hshows with
  | lines hput => exact .error _
  | block _ hput => exact .error _
  | declaration hf => exact .ok hf
  | text hf => exact .ok hf

theorem exists_of_isBlock (h : isBlock n = true) : ∃ ns p, n = .blockStatement ns p := by
  cases n with
  | blockStatement ns p => exact ⟨ns, p, rfl⟩
  | _ => cases h

theorem writeBody_of_not_block (h : isBlock body = false) (joined : Bool) :
    writeBody e joined s body (visit body · 0) (visitInside body)
      = (do
        let e := (e.put joined s).indent
        return (← writeStatement body e (visit body e 0)).dedent) := by
  cases body with
  | blockStatement => cases h
  | _ => rfl

/-- Only a block is printed as a block. -/
theorem bind_of_not_block {α : Type} (h : isBlock body = false)
    (hbody : Agrees indent depth k body e) {x y : Output → Printing α}
    (hxy : ∀ o, (∀ inner isEmpty, o ≠ .block inner isEmpty) → x o = y o) :
    print body >>= x = print body >>= y := by
  rw [Agrees] at hbody
  generalize print body = z, visit body e k = w at hbody ⊢
  cases hbody with
  | error => rfl
  | ok hshows =>
    cases hshows with
    | block hblock => rw [h] at hblock; cases hblock
    | _ => exact hxy _ nofun

/-- A body prints the same in every buffer that stands there, as a statement and, if it is a block,
from inside. -/
def AgreesBelow (indent depth : Nat) (body : Node) : Prop :=
  ∀ e : Emitter, e.At indent depth → Agrees indent depth 0 body e ∧
    ∀ ns p, body = .blockStatement ns p →
      Same (Put indent depth (literalsIn ns) e) (statements ns) (visitStatements ns e)

/-- A header with its body, for every way to place the header that the buffer keeps up with. -/
theorem under_same {place : Fragment → Lines} {joined : Bool} {header : Fragment} {hs : String}
    (he : e.At indent depth)
    (hplace : ∀ f s, f.Reads indent depth vs s →
      Written indent depth (ws ++ vs) e (place f) (e₁.put joined s))
    (hheader : header.Reads indent depth vs hs)
    (hbody : AgreesBelow indent (depth + 1) body) :
    Same (Written indent depth (ws ++ (vs ++ literals body)) e)
      (print body >>= fun o => o.under place header body)
      (writeBody e₁ joined hs body (visit body · 0) (visitInside body)) := by
  rw [← List.append_assoc]
  cases hb : isBlock body with
  | true =>
    -- The brace opens behind the header, and the buffer goes on inside the block.
    obtain ⟨ns, p, rfl⟩ := exists_of_isBlock hb
    cases ns with
    | nil =>
      have hempty := hplace _ _ (hheader.followed " \x7b\x7d")
      rw [← List.append_nil (ws ++ vs)] at hempty
      exact .ok hempty
    | cons n ns =>
      have hopen := hplace _ _ (hheader.followed " \x7b")
      have hdeep := (hopen.stands he).deeper
      show Same _ ((statements (n :: ns) >>= fun ls => .ok (Output.block ls false)) >>= _) _
      rw [bind_assoc]
      exact ((hbody _ hdeep).2 _ _ rfl).bind fun ls e' hput => .ok (hopen.closed he hput)
  | false =>
    -- The body is a statement of its own, one step further in.
    have hopen := hplace _ _ hheader
    have hdeep := (hopen.stands he).deeper
    have hstatement := (hbody _ hdeep).1
    have hunder : (print body >>= fun o => o.under place header body)
        = print body >>= fun o => o.asStatement body >>= fun ls =>
            .ok (place header ++ ls.indented) :=
      bind_of_not_block hb hstatement fun o ho => by
        cases o with
        | block inner isEmpty => exact absurd rfl (ho inner isEmpty)
        | _ => rfl
    rw [hunder, writeBody_of_not_block hb]
    exact (hstatement.statement hdeep).after fun ls e' hput => .ok (hopen.append hput.indented)

end

/-! ## Every kind of node -/

section

variable {e e₁ : Emitter} {f g : Fragment} {s t : String} {ws vs : List String}

/-- A statement of one line. -/
theorem line_same {n : Node} (he : e.At indent depth) (h : f.Reads indent depth (literals n) s) :
    Same (Shows indent depth k n e) (lineOf f) (.ok (.wrote (e.emit s))) :=
  .ok (.lines (Put.emit he h))

/-- A text. -/
theorem text_same {n : Node} (h : f.Reads indent (depth + k) (literals n) s) :
    Same (Shows indent depth k n e) (textOf f) (.ok (.text s)) :=
  .ok (.text h)

/-- A header on a line of its own, with its body. -/
theorem body_same {body : Node} (he : e.At indent depth) (h : f.Reads indent depth vs s)
    (hbody : AgreesBelow indent (depth + 1) body) :
    Same (Written indent depth (vs ++ literals body) e)
      (print body >>= fun o => o.under .line f body)
      (writeBody e false s body (visit body · 0) (visitInside body)) := by
  have hplace (g : Fragment) (t : String) (h' : g.Reads indent depth vs t) :
      Written indent depth ([] ++ vs) e (.line g) (e.put false t) :=
    Written.line he h'
  exact under_same he hplace h hbody

/-- A word behind other lines, with its body. -/
theorem behind_same {body : Node} {before : Lines} (word : String) (joined : Bool)
    (he : e.At indent depth) (h : Written indent depth ws e before e₁)
    (hbody : AgreesBelow indent (depth + 1) body) :
    Same (Written indent depth (ws ++ literals body) e)
      (print body >>= fun o => o.under (before.put joined) word body)
      (writeBody e₁ joined word body (visit body · 0) (visitInside body)) :=
  under_same he (fun _ _ hf => h.put he joined hf) (reads_ofText word) hbody

/-- What another buffer holds, in braces. -/
theorem braced_same {x : Printing Lines} {y : Printing Emitter} {isEmpty : Bool}
    (he : e.At indent depth) (hempty : isEmpty = true → x = .ok .none ∧ ws = [])
    (h : Same (Put indent (depth + k + 1) ws (e.inner k)) x y) :
    Same (Reads indent (depth + k) ws) (x >>= fun b => .ok (bracedLines b isEmpty))
      (writeBraced e k isEmpty y) := by
  cases isEmpty with
  | true =>
    obtain ⟨rfl, rfl⟩ := hempty rfl
    exact .ok (reads_ofText _)
  | false => exact h.bind fun _ _ hput => .ok (reads_braced he hput)

theorem statements_of_isEmpty {ns : List Node} (h : ns.isEmpty = true) :
    statements ns = .ok .none ∧ literalsIn ns = [] := by
  rw [List.isEmpty_iff.1 h]
  exact ⟨rfl, rfl⟩

theorem members_of_isEmpty {ms : List Node} (h : ms.isEmpty = true) :
    members ms = .ok .none ∧ literalsIn ms = [] := by
  rw [List.isEmpty_iff.1 h]
  exact ⟨rfl, rfl⟩

/-- The value of a property without a key of its own, if it says more than the key does. -/
theorem shorthandValue_eq (key : Fragment) (v : Option Node) :
    shorthandValue key v = if isDefault v then required v else .ok key := by
  cases v with
  | none => rfl
  | some n =>
    cases n with
    | assignmentPattern l r p =>
      show _ = (print l >>= fun o => o.asExpression l >>= fun fl => print r >>= fun o =>
        o.asExpression r >>= fun fr => textOf (fl ++ " = " ++ fr)) >>= fun o => o.asExpression _
      simp only [bind_assoc]
      rfl
    | _ => rfl

/-- A function's body behind its head; an object behind the arrow needs parentheses. -/
theorem arrow_same {n body : Node} {head : Fragment} {hs : String}
    (hn : literals n = ws ++ literals body) (hhead : head.Reads indent (depth + k) ws hs)
    (hbody : Agrees indent depth k body e)
    (hfunction : Same (Reads indent (depth + k) (literals body)) (functionBody body)
      (visitFunctionBody body e k)) :
    Same (Shows indent depth k n e)
      (print body >>= fun o =>
        match o with
        | .block inner isEmpty => textOf (head ++ bracedLines inner isEmpty)
        | out => do
          let f ← out.asExpression body
          if f.beginsWith "\x7b" then textOf (head ++ "(" ++ f ++ ")") else textOf (head ++ f))
      (if isBlock body then do return .text (hs ++ (← visitFunctionBody body e k))
      else do
        let s ← writeExpression body (visit body e k)
        return .text
          (hs ++ (if "\x7b".toList.isPrefixOf s.toList then "(" ++ s ++ ")" else s))) := by
  cases hb : isBlock body with
  | true =>
    obtain ⟨ns, p, rfl⟩ := exists_of_isBlock hb
    show Same _ ((statements ns >>= fun ls => .ok (Output.block ls ns.isEmpty)) >>= _) _
    rw [bind_assoc]
    exact Same.after (g := fun b => textOf (head ++ b)) hfunction fun _ _ h =>
      text_same (hn ▸ hhead.append h)
  | false =>
    have htext : (print body >>= fun o =>
        match o with
        | .block inner isEmpty => textOf (head ++ bracedLines inner isEmpty)
        | out => do
          let f ← out.asExpression body
          if f.beginsWith "\x7b" then textOf (head ++ "(" ++ f ++ ")") else textOf (head ++ f))
        = print body >>= fun o => o.asExpression body >>= fun f =>
          if f.beginsWith "\x7b" then textOf (head ++ "(" ++ f ++ ")") else textOf (head ++ f) :=
      bind_of_not_block hb hbody fun o ho => by
        cases o with
        | block inner isEmpty => exact absurd rfl (ho inner isEmpty)
        | _ => rfl
    rw [htext]
    -- Both look at the first character, which is no padding.
    refine hbody.expression.after fun f s hf => ?_
    rw [hf.beginsWith_eq (by decide)]
    split
    · rw [← String.append_assoc, ← String.append_assoc]
      exact text_same (hn ▸ ((hhead.followed "(").append hf).followed ")")
    · exact text_same (hn ▸ hhead.append hf)

theorem reads_elementsOf {fs : List Fragment} {ss : List String} (hole : Bool)
    (h : ReadsAll indent depth ws fs ss) :
    (elementsOf fs hole).Reads indent depth ws (writeElements ss hole) :=
  (reads_join ", " h).followed _

theorem reads_keyOf (computed : Bool) (h : f.Reads indent depth ws s) :
    (keyOf computed f).Reads indent depth ws (writeKey computed s) :=
  .ite ((h.preceded "[").followed "]") h

/-- A sign needs a space in front of the same sign. -/
theorem sign_eq (op : String) (h : f.Reads indent depth ws s) :
    ((op == "+" || op == "-") && f.beginsWith op)
      = ((op == "+" || op == "-") && op.toList.isPrefixOf s.toList) := by
  cases hop : op == "+" || op == "-" with
  | false => rfl
  | true =>
    have hfeed : '\n' ∉ op.toList := by
      rw [Bool.or_eq_true, beq_iff_eq, beq_iff_eq] at hop
      obtain rfl | rfl := hop
      · decide
      · decide
    rw [h.beginsWith_eq hfeed]

end

section

variable {indent : Nat}

mutual

/-- Nothing that a node prints depends on how wide the steps are. -/
theorem visit_same : ∀ (n : Node) {e : Emitter} {depth : Nat} (k : Nat),
    e.At indent depth → Agrees indent depth k n e
  | .program body _, _, _, _, he => (statements_same body he).bind fun _ _ h => .ok (.lines h)
  | .blockStatement [] _, _, _, _, he => .ok (.block rfl (Put.emit he (reads_ofText _)))
  | .blockStatement (n :: ns) _, _, _, _, he =>
    have hopen := Written.line he (reads_ofText "\x7b")
    (statements_same (n :: ns) (hopen.stands he).deeper).bind fun _ _ h =>
      .ok (.block rfl (hopen.closed he h).toPut)
  | .emptyStatement _, _, _, _, he => line_same he (reads_ofText _)
  | .expressionStatement x _, e, _, _, he => by
    refine (visit_same x 0 he).expression.after fun f s hf => ?_
    rw [hf.looksLikeStatement_eq]
    dsimp only
    split
    · rw [String.append_assoc]
      exact line_same he ((hf.preceded "(").followed ");")
    · exact line_same he (hf.followed ";")
  | .variableDeclaration _ ds _, _, _, k, he =>
    (declarators_same ds k he).bind fun _ _ h =>
      .ok (.declaration ((reads_join ", " h).preceded _))
  | .functionDeclaration _ params body _ _ _, _, _, _, he =>
    .shared fun name => (expressions_same params 0 he).bind fun _ _ h =>
      (body_same he ((((((reads_ofText _).followed " ").followed name).followed "(").append
          (reads_join ", " h)).followed ")")
        (fun _ he' => ⟨visit_same body 0 he', inside_same body he'⟩)).after fun _ _ h' =>
          .ok (.lines h'.toPut)
  | .classDeclaration _ superclass ms _, _, _, _, he =>
    .shared fun name => (maybe_same " extends " superclass 0 he).bind fun _ _ h => by
      have hheader := ((reads_ofText "class ").followed name).append h
      have hopen := Written.line he (hheader.followed " \x7b")
      dsimp only
      split
      · rename_i hempty
        have hms : literalsOf superclass = literalsOf superclass ++ literalsIn ms := by
          rw [(members_of_isEmpty hempty).2, List.append_nil]
        exact line_same he ((hheader.followed _).of_eq hms)
      · exact (members_same ms (hopen.stands he).deeper).bind fun _ _ h' =>
          .ok (.lines (hopen.closed he h').toPut)
  | .ifStatement t c a _, _, _, _, he =>
    (visit_same t 0 he).expression.after fun _ _ h =>
      (body_same he ((h.preceded "if (").followed ")")
        (fun _ he' => ⟨visit_same c 0 he', inside_same c he'⟩)).after fun _ _ h' =>
          (alternate_same a (isBlock c) he h').bind fun _ _ h'' => .ok (.lines h''.toPut)
  | .forStatement _ i t u body _, _, _, _, he =>
    (maybe_same "" i 0 he).bind fun _ _ hi => (maybe_same " " t 0 he).bind fun _ _ ht =>
      (maybe_same " " u 0 he).bind fun _ _ hu =>
        (body_same he ((((((hi.preceded "for (").followed ";").append ht).followed ";").append
            hu).followed ")")
          (fun _ he' => ⟨visit_same body 0 he', inside_same body he'⟩)).after fun _ _ h =>
            .ok (.lines h.toPut)
  | .forInStatement _ l r body _, _, _, _, he =>
    (visit_same l 0 he).expression.after fun _ _ hl =>
      (visit_same r 0 he).expression.after fun _ _ hr =>
        (body_same he ((((hl.preceded "for (").followed " in ").append hr).followed ")")
          (fun _ he' => ⟨visit_same body 0 he', inside_same body he'⟩)).after fun _ _ h =>
            .ok (.lines h.toPut)
  | .forOfStatement _ l r body _ _, _, _, _, he =>
    (visit_same l 0 he).expression.after fun _ _ hl =>
      (visit_same r 0 he).expression.after fun _ _ hr =>
        (body_same he ((((hl.preceded _).followed " of ").append hr).followed ")")
          (fun _ he' => ⟨visit_same body 0 he', inside_same body he'⟩)).after fun _ _ h =>
            .ok (.lines h.toPut)
  | .whileStatement _ t body _, _, _, _, he =>
    (visit_same t 0 he).expression.after fun _ _ h =>
      (body_same he ((h.preceded "while (").followed ")")
        (fun _ he' => ⟨visit_same body 0 he', inside_same body he'⟩)).after fun _ _ h' =>
          .ok (.lines h'.toPut)
  | .doWhileStatement _ body t _, _, _, _, he =>
    (body_same he (reads_ofText "do")
      (fun _ he' => ⟨visit_same body 0 he', inside_same body he'⟩)).after fun _ _ h =>
        (visit_same t 0 (h.stands he)).expression.after fun _ _ h' =>
          .ok (.lines (h.put he (isBlock body) ((h'.preceded "while (").followed ");")).toPut)
  | .returnStatement a _, _, _, _, he =>
    (maybe_same " " a 0 he).bind fun _ _ h => line_same he ((h.preceded "return").followed ";")
  | .throwStatement a _, _, _, _, he =>
    (visit_same a 0 he).expression.after fun _ _ h =>
      line_same he ((h.preceded "throw ").followed ";")
  | .breakStatement _ _, _, _, _, he => .shared fun name =>
    match name with
    | none => line_same he (reads_ofText _)
    | some s => line_same he (((reads_ofText "break ").followed s).followed ";")
  | .continueStatement _ _, _, _, _, he => .shared fun name =>
    match name with
    | none => line_same he (reads_ofText _)
    | some s => line_same he (((reads_ofText "continue ").followed s).followed ";")
  | .debuggerStatement _, _, _, _, he => line_same he (reads_ofText _)
  | .labeledStatement _ body _, _, _, _, he => .shared fun name =>
    have hlabel := Put.label (name ++ ": ")
    ((visit_same body 0 (hlabel.stands he)).statement (hlabel.stands he)).after fun _ _ h =>
      .ok (.lines (hlabel.append h))
  | .tryStatement b c f _, _, _, _, he =>
    (body_same he (reads_ofText "try")
      (fun _ he' => ⟨visit_same b 0 he', inside_same b he'⟩)).after fun _ _ h =>
        (handler_same c he h).bind fun _ _ h' => (finalizer_same f he h').bind fun _ _ h'' =>
          .ok (.lines h''.toPut)
  | .switchStatement x cs _, _, _, _, he =>
    (visit_same x 0 he).expression.after fun _ _ h => by
      have hheader := (h.preceded "switch (").followed ")"
      have hopen := Written.line he (hheader.followed " \x7b")
      dsimp only
      split
      · rename_i hempty
        have hcs : literals x = literals x ++ literalsIn cs := by
          rw [List.isEmpty_iff.1 hempty]
          exact (List.append_nil _).symm
        exact line_same he ((hheader.followed _).of_eq hcs)
      · exact (cases_same cs (hopen.stands he).deeper).bind fun _ _ h' =>
          .ok (.lines (hopen.closed he h').toPut)
  | .identifier _ _, _, _, _, _ => text_same (reads_ofText _)
  | .literal _ _ _, _, _, _, _ => text_same (reads_literal _)
  | .templateLiteral [] _ _, _, _, _, _ => .error _
  | .templateLiteral (q :: qs) es _, _, _, k, he =>
    (template_same es qs k he).bind fun _ _ h =>
      text_same ((((reads_literal q).preceded _).append h).followed _)
  | .taggedTemplateExpression t q _, _, _, k, he =>
    (visit_same t k he).expression.after fun _ _ ht =>
      (visit_same q k he).expression.after fun _ _ hq => text_same (ht.append hq)
  | .thisExpression _, _, _, _, _ => text_same (reads_ofText _)
  | .super _, _, _, _, _ => text_same (reads_ofText _)
  | .arrayExpression es _, _, _, k, he =>
    (elements_same es k he).bind fun _ _ h =>
      text_same (((reads_elementsOf _ h).preceded "[").followed "]")
  | .arrayPattern es _, _, _, k, he =>
    (elements_same es k he).bind fun _ _ h =>
      text_same (((reads_elementsOf _ h).preceded "[").followed "]")
  | .objectExpression ps _, _, _, k, he =>
    (expressions_same ps (k + 1) he).bind fun _ _ h => text_same (reads_objectOf he h)
  | .objectPattern ps _, _, _, k, he =>
    (expressions_same ps (k + 1) he).bind fun _ _ h => text_same (reads_objectOf he h)
  | .property n v kind computed shorthand method _, _, _, k, he =>
    (visit_same n k he).expression.after fun _ _ h => by
      have hkey := reads_keyOf computed h
      dsimp only
      split
      · rename_i hmethod
        exact (objectMethod_same kind v k he hkey).bind fun _ _ h' =>
          text_same (h'.of_eq (propertyLiterals_both _ (by rw [hmethod]; rfl) _ _).symm)
      · rename_i hmethod
        split
        · rename_i hshorthand
          have hown : (kind == .get || kind == .set || method || !shorthand) = false := by
            rw [Bool.eq_false_iff.2 hmethod, hshorthand]
            rfl
          have hliterals :=
            propertyLiterals_shorthand (isDefault v) hown (literals n) (literalsOf v)
          rw [shorthandValue_eq]
          split
          · rename_i hdefault
            rw [if_pos hdefault] at hliterals
            exact (required_same v k he).bind fun _ _ h' => text_same (h'.of_eq hliterals.symm)
          · rename_i hdefault
            rw [if_neg hdefault] at hliterals
            exact text_same (hkey.of_eq hliterals.symm)
        · rename_i hshorthand
          exact (required_same v k he).bind fun _ _ h' =>
            text_same (((hkey.followed ": ").append h').of_eq
              (propertyLiterals_both _ (by simp [hshorthand]) _ _).symm)
  | .spreadElement a _, _, _, k, he =>
    (visit_same a k he).expression.after fun _ _ h => text_same (h.preceded "...")
  | .restElement a _, _, _, k, he =>
    (visit_same a k he).expression.after fun _ _ h => text_same (h.preceded "...")
  | .assignmentPattern l r _, _, _, k, he =>
    (visit_same l k he).expression.after fun _ _ hl =>
      (visit_same r k he).expression.after fun _ _ hr =>
        text_same ((hl.followed " = ").append hr)
  | .functionExpression _ params body _ _ _, _, _, k, he =>
    .shared fun name => (expressions_same params k he).bind fun _ _ h =>
      (functionBody_same body k he).bind fun _ _ hbody =>
        text_same (((((reads_ofText _).followed "(").append (reads_join ", " h)).followed
          ") ").append hbody)
  | .arrowFunctionExpression params body _ _, _, _, k, he =>
    (expressions_same params k he).bind fun _ _ h =>
      arrow_same rfl (((reads_join ", " h).preceded _).followed ") => ") (visit_same body k he)
        (functionBody_same body k he)
  | .classExpression _ superclass ms _, _, _, k, he =>
    .shared fun name => (maybe_same " extends " superclass k he).bind fun _ _ h =>
      have hheader := ((reads_ofText "class").followed _).append h
      (braced_same he members_of_isEmpty (members_same ms (he.inner k))).after fun _ _ hbody =>
        text_same ((hheader.followed " ").append hbody)
  | .unaryExpression op a _, _, _, k, he =>
    (visit_same a k he).expression.after fun _ _ h => by
      rw [sign_eq op h]
      split
      · exact text_same (((reads_ofText op).followed " ").append h)
      · exact text_same (h.preceded op)
  | .updateExpression op a _ _, _, _, k, he =>
    (visit_same a k he).expression.after fun _ _ h => by
      split
      · exact text_same (h.preceded op)
      · exact text_same (h.followed op)
  | .awaitExpression a _, _, _, k, he =>
    (visit_same a k he).expression.after fun _ _ h => text_same (h.preceded "await ")
  | .yieldExpression a _ _, _, _, k, he =>
    (maybe_same " " a k he).bind fun _ _ h => text_same (h.preceded _)
  | .binaryExpression op l r _, _, _, k, he =>
    (visit_same l k he).expression.after fun _ _ hl =>
      (visit_same r k he).expression.after fun _ _ hr =>
        text_same ((((hl.followed " ").followed op).followed " ").append hr)
  | .assignmentExpression op l r _, _, _, k, he =>
    (visit_same l k he).expression.after fun _ _ hl =>
      (visit_same r k he).expression.after fun _ _ hr =>
        text_same ((((hl.followed " ").followed op).followed " ").append hr)
  | .conditionalExpression t c a _, _, _, k, he =>
    (visit_same t k he).expression.after fun _ _ ht =>
      (visit_same c k he).expression.after fun _ _ hc =>
        (visit_same a k he).expression.after fun _ _ ha =>
          text_same ((((ht.followed " ? ").append hc).followed " : ").append ha)
  | .sequenceExpression es _, _, _, k, he =>
    (expressions_same es k he).bind fun _ _ h => text_same (reads_join ", " h)
  | .memberExpression o p _ _ _, _, _, k, he =>
    (visit_same o k he).expression.after fun _ _ ho =>
      (visit_same p k he).expression.after fun _ _ hp => by
        have htarget := Reads.ite (c := isPlainNumber o) ((ho.preceded "(").followed ")") ho
        split
        · exact text_same (((htarget.followed _).append hp).followed "]")
        · exact text_same ((htarget.followed _).append hp)
  | .callExpression callee args _ _, _, _, k, he =>
    (expressions_same args k he).bind fun _ _ hargs =>
      (visit_same callee k he).expression.after fun _ _ h =>
        text_same (((h.followed _).append (reads_join ", " hargs)).followed ")")
  | .newExpression callee true args _, _, _, k, he =>
    (visit_same callee k he).expression.after fun _ _ h =>
      (expressions_same args k he).bind fun _ _ hargs =>
        text_same ((((h.preceded "new ").followed "(").append (reads_join ", " hargs)).followed
          ")")
  | .newExpression callee false _ _, _, _, k, he =>
    (visit_same callee k he).expression.after fun _ _ h => text_same (h.preceded "new ")
  | .parenthesizedExpression x _, _, _, k, he =>
    (visit_same x k he).expression.after fun _ _ h =>
      text_same ((h.preceded "(").followed ")")
  | .variableDeclarator _ _ _, _, _, _, _ => .error _
  | .catchClause _ _ _, _, _, _, _ => .error _
  | .switchCase _ _ _, _, _, _, _ => .error _
  | .methodDefinition _ _ _ _ _ _, _, _, _, _ => .error _
  | .propertyDefinition _ _ _ _ _, _, _, _, _ => .error _

theorem inside_same : ∀ (n : Node) {e : Emitter} {depth : Nat}, e.At indent depth →
    ∀ ns p, n = .blockStatement ns p →
      Same (Put indent depth (literalsIn ns) e) (statements ns) (visitStatements ns e)
  | n, _, _, he => by
    cases n with
    | blockStatement ns p =>
      rintro _ _ ⟨⟩
      exact statements_same ns he
    | _ => exact nofun

theorem statements_same : ∀ (ns : List Node) {e : Emitter} {depth : Nat},
    e.At indent depth →
      Same (Put indent depth (literalsIn ns) e) (statements ns) (visitStatements ns e)
  | [], _, _, _ => .ok Put.nil
  | n :: ns, _, _, he =>
    ((visit_same n 0 he).statement he).after fun _ _ h =>
      (statements_same ns (h.stands he)).map fun _ _ h' => h.append h'

theorem expressions_same : ∀ (ns : List Node) {e : Emitter} {depth : Nat} (k : Nat),
    e.At indent depth →
      Same (ReadsAll indent (depth + k) (literalsIn ns)) (expressions ns) (visitExpressions ns e k)
  | [], _, _, _, _ => .ok .nil
  | n :: ns, _, _, k, he =>
    (visit_same n k he).expression.after fun _ _ h =>
      (expressions_same ns k he).bind fun _ _ h' => .ok (.cons h h')

theorem elements_same : ∀ (os : List (Option Node)) {e : Emitter} {depth : Nat} (k : Nat),
    e.At indent depth →
      Same (ReadsAll indent (depth + k) (literalsAmong os)) (elements os) (visitElements os e k)
  | [], _, _, _, _ => .ok .nil
  | none :: os, _, _, k, he =>
    (elements_same os k he).bind fun _ _ h => .ok (.cons (reads_ofText _) h)
  | some n :: os, _, _, k, he =>
    (visit_same n k he).expression.after fun _ _ h =>
      (elements_same os k he).bind fun _ _ h' => .ok (.cons h h')

theorem maybe_same (before : String) : ∀ (o : Option Node) {e : Emitter} {depth : Nat} (k : Nat),
    e.At indent depth →
      Same (Reads indent (depth + k) (literalsOf o)) (maybe before o) (visitMaybe before o e k)
  | none, _, _, _, _ => .ok (reads_ofText _)
  | some n, _, _, k, he =>
    (visit_same n k he).expression.after fun _ _ h => .ok (h.preceded before)

theorem required_same : ∀ (o : Option Node) {e : Emitter} {depth : Nat} (k : Nat),
    e.At indent depth →
      Same (Reads indent (depth + k) (literalsOf o)) (required o) (visitRequired o e k)
  | none, _, _, _, _ => .error _
  | some n, _, _, k, he => (visit_same n k he).expression

theorem template_same : ∀ (es : List Node) (qs : List String) {e : Emitter} {depth : Nat} (k : Nat),
    e.At indent depth →
      Same (Reads indent (depth + k) (literalsBetween es qs)) (template es qs)
        (visitTemplate es qs e k)
  | [], _, _, _, _, _ => .ok (reads_ofText _)
  | _ :: _, [], _, _, _, _ => .ok (reads_ofText _)
  | n :: ns, q :: qs, _, _, k, he =>
    (visit_same n k he).expression.after fun _ _ h =>
      (template_same ns qs k he).bind fun _ _ h' =>
        .ok ((((h.preceded _).followed _).append (reads_literal q)).append h')

theorem declarators_same : ∀ (ds : List Node) {e : Emitter} {depth : Nat} (k : Nat),
    e.At indent depth →
      Same (ReadsAll indent (depth + k) (literalsIn ds)) (declarators ds) (visitDeclarators ds e k)
  | [], _, _, _, _ => .ok .nil
  | n :: ds, _, _, k, he => by
    cases n with
    | variableDeclarator id init p =>
      exact (visit_same id k he).expression.after fun _ _ h =>
        (maybe_same " = " init k he).bind fun _ _ h' =>
          (declarators_same ds k he).bind fun _ _ hs => .ok (.cons (h.append h') hs)
    | _ => exact .error _

theorem functionBody_same : ∀ (n : Node) {e : Emitter} {depth : Nat} (k : Nat),
    e.At indent depth →
      Same (Reads indent (depth + k) (literals n)) (functionBody n) (visitFunctionBody n e k)
  | n, _, _, k, he => by
    cases n with
    | blockStatement ns p =>
      exact braced_same he statements_of_isEmpty (statements_same ns (he.inner k))
    | program ns p =>
      exact braced_same he statements_of_isEmpty (statements_same ns (he.inner k))
    | _ => exact .error _

theorem objectMethod_same (kind : MemberKind) {key : Fragment} {s : String} {ws : List String} :
    ∀ (o : Option Node) {e : Emitter} {depth : Nat} (k : Nat), e.At indent depth →
      key.Reads indent (depth + k) ws s →
        Same (Reads indent (depth + k) (ws ++ literalsOf o)) (objectMethod kind key o)
          (visitObjectMethod kind s o e k)
  | none, _, _, _, _, _ => .error _
  | some n, _, _, k, he, hkey => by
    cases n with
    | functionExpression id params body isAsync generator p =>
      exact (expressions_same params k he).bind fun _ _ h =>
        (functionBody_same body k he).bind fun _ _ hbody =>
          .ok ((((((hkey.preceded _).followed "(").append (reads_join ", " h)).followed
            ") ").append hbody).of_eq (List.append_assoc ..))
    | functionDeclaration id params body isAsync generator p =>
      exact (expressions_same params k he).bind fun _ _ h =>
        (functionBody_same body k he).bind fun _ _ hbody =>
          .ok ((((((hkey.preceded _).followed "(").append (reads_join ", " h)).followed
            ") ").append hbody).of_eq (List.append_assoc ..))
    | _ => exact .error _

theorem classMethod_same (words : String) (kind : MemberKind) {key : Fragment} {s : String}
    {ws : List String} :
    ∀ (n : Node) {e : Emitter} {depth : Nat}, e.At indent depth → key.Reads indent depth ws s →
      Same (Written indent depth (ws ++ literals n) e) (classMethod words kind key n)
        (visitClassMethod words kind s n e)
  | n, _, _, he, hkey => by
    cases n with
    | functionExpression id params body isAsync generator p =>
      show Same (Written _ _ (ws ++ (literalsIn params ++ literals body)) _) _ _
      rw [← List.append_assoc]
      exact (expressions_same params 0 he).bind fun _ _ h =>
        body_same he ((((((reads_ofText words).followed _).append hkey).followed "(").append
            (reads_join ", " h)).followed ")")
          (fun _ he' => ⟨visit_same body 0 he', inside_same body he'⟩)
    | functionDeclaration id params body isAsync generator p =>
      show Same (Written _ _ (ws ++ (literalsIn params ++ literals body)) _) _ _
      rw [← List.append_assoc]
      exact (expressions_same params 0 he).bind fun _ _ h =>
        body_same he ((((((reads_ofText words).followed _).append hkey).followed "(").append
            (reads_join ", " h)).followed ")")
          (fun _ he' => ⟨visit_same body 0 he', inside_same body he'⟩)
    | _ => exact .error _

theorem members_same : ∀ (ms : List Node) {e : Emitter} {depth : Nat}, e.At indent depth →
    Same (Put indent depth (literalsIn ms) e) (members ms) (visitMembers ms e)
  | [], _, _, _ => .ok Put.nil
  | n :: ms, _, _, he => by
    cases n with
    | methodDefinition key v kind isStatic computed p =>
      exact (visit_same key 0 he).expression.after fun _ _ h =>
        (classMethod_same _ kind v he (reads_keyOf computed h)).bind fun _ _ h' =>
          (members_same ms (h'.stands he)).map fun _ _ hs => h'.toPut.append hs
    | propertyDefinition key v isStatic computed p =>
      exact (visit_same key 0 he).expression.after fun _ _ h =>
        (maybe_same " = " v 0 he).bind fun _ _ hv =>
          have hline := Put.emit he
            ((((reads_keyOf computed h).preceded _).append hv).followed ";")
          (members_same ms (hline.stands he)).map fun _ _ hs => hline.append hs
    | _ => exact .error _

theorem alternate_same : ∀ (o : Option Node) (joined : Bool) {e e₁ : Emitter} {before : Lines}
    {depth : Nat} {ws : List String}, e.At indent depth → Written indent depth ws e before e₁ →
      Same (Written indent depth (ws ++ literalsOf o) e) (alternate before joined o)
        (visitAlternate o joined e₁)
  | none, _, _, _, _, _, _, _, h => .ok (List.append_nil _ ▸ h)
  | some n, joined, _, _, _, _, _, he, h => by
    cases n with
    | ifStatement t c a p =>
      show Same (Written _ _ (_ ++ (literals t ++ literals c ++ literalsOf a)) _) _ _
      rw [← List.append_assoc]
      exact (visit_same t 0 (h.stands he)).expression.after fun _ _ ht =>
        (under_same he (fun _ _ hf => h.put he joined hf) ((ht.preceded "else if (").followed ")")
          (fun _ he' => ⟨visit_same c 0 he', inside_same c he'⟩)).after fun _ _ hc =>
            alternate_same a (isBlock c) he hc
    | _ =>
      exact behind_same "else" joined he h (fun _ he' => ⟨visit_same _ 0 he', inside_same _ he'⟩)

theorem handler_same : ∀ (o : Option Node) {e e₁ : Emitter} {before : Lines} {depth : Nat}
    {ws : List String}, e.At indent depth → Written indent depth ws e before e₁ →
      Same (Written indent depth (ws ++ literalsOf o) e) (handler before o) (visitHandler o e₁)
  | none, _, _, _, _, _, _, h => .ok (List.append_nil _ ▸ h)
  | some n, _, _, _, _, _, he, h => by
    cases n with
    | catchClause c body p =>
      cases c with
      | none =>
        exact behind_same "catch" true he h
          (fun _ he' => ⟨visit_same body 0 he', inside_same body he'⟩)
      | some c =>
        exact (visit_same c 0 (h.stands he)).expression.after fun _ _ hc =>
          under_same he (fun _ _ hf => h.put he true hf) ((hc.preceded "catch (").followed ")")
            (fun _ he' => ⟨visit_same body 0 he', inside_same body he'⟩)
    | _ => exact .error _

theorem finalizer_same : ∀ (o : Option Node) {e e₁ : Emitter} {before : Lines} {depth : Nat}
    {ws : List String}, e.At indent depth → Written indent depth ws e before e₁ →
      Same (Written indent depth (ws ++ literalsOf o) e) (finalizer before o) (visitFinalizer o e₁)
  | none, _, _, _, _, _, _, h => .ok (List.append_nil _ ▸ h)
  | some n, _, _, _, _, _, he, h =>
    behind_same "finally" true he h (fun _ he' => ⟨visit_same n 0 he', inside_same n he'⟩)

theorem cases_same : ∀ (cs : List Node) {e : Emitter} {depth : Nat}, e.At indent depth →
    Same (Put indent depth (literalsIn cs) e) (cases cs) (visitCases cs e)
  | [], _, _, _ => .ok Put.nil
  | n :: cs, _, _, he => by
    cases n with
    | switchCase t ss p =>
      cases t with
      | none =>
        have hline := Put.emit he (reads_ofText "default:")
        exact (statements_same ss (hline.stands he).deeper).bind fun _ _ h =>
          have h' := hline.append h.indented
          (cases_same cs (h'.stands he)).map fun _ _ hs => h'.append hs
      | some t =>
        exact (visit_same t 0 he).expression.after fun _ _ ht =>
          have hline := Put.emit he ((ht.preceded "case ").followed ":")
          (statements_same ss (hline.stands he).deeper).bind fun _ _ h =>
            have h' := hline.append h.indented
            (cases_same cs (h'.stands he)).map fun _ _ hs => h'.append hs
    | _ => exact .error _

end

end

/-! ## Trees -/

/-- The lines of a tree, with its literals in them, and the text of the plain printer. -/
theorem layout_same (n : Node) (indent : Nat) :
    Same (fun ls text => text = renderLines indent ls ∧ Verbatim (literals n) (marksBelow 0 ls))
      (layout n) (write n indent) := by
  let start : Emitter := { step := String.ofList (List.replicate indent ' ') }
  have he : start.At indent 0 := ⟨rfl, rfl⟩
  rw [layout, ← bind_assoc]
  refine ((visit_same n 0 he).statement he).bind fun ls e h => .ok ⟨?_, ?_⟩
  · exact value_eq (h.chars_of_empty rfl rfl)
  · exact h.literals_of_empty rfl

/-- **The plain printer and the layout come to the same**, for every tree and every width of the
steps: to one error, or to one text. -/
theorem write_eq_generate (n : Node) (indent : Nat) : write n indent = generate n indent := by
  have hsame := layout_same n indent
  rw [generate]
  revert hsame
  generalize layout n = x, write n indent = y
  rintro (error | ⟨rfl, -⟩)
  · rfl
  · rfl

end LoopBound.Layout
