import LoopBound.Proofs.Grammar.Listed
import LoopBound.Proofs.Grammar.Operands

/-!
# Patterns and expressions at one place

A list in parentheses may be parameters or an expression, and brackets or braces may hold a pattern
or a literal. Where both readings match, and something stands behind that can only end an item of a
list, they end at the same place (`Agree`). This is what makes it harmless that an arrow function is
tried before an expression, and a pattern before a literal.

The proof is by induction on the length of the text. At one place the two readings are compared by
what the text begins with: a name, a bracket or a brace; and what is inside brackets is shorter.
-/

namespace LoopBound.Grammar

open Pattern LoopBound.Text

variable {cs mid rest rest' : List Char}

/-! ## Targets -/

/-- How a text with a binding target in front begins. -/
def targetLeads : List Lead :=
  .mark '\x7b' :: .mark '[' :: nameLeads

theorem exists_of_objectPattern (h : (rule .objectPattern).Ends cs rest) :
    ∃ ds, cs = '\x7b' :: ds ∧ Listed (rule .patternProperty) '\x7d' (skip ds) rest := by
  obtain ⟨ds, mid, hds, hlist, hend⟩ := (ends_enclosed rfl rfl).1 (ends_rule.1 h)
  exact ⟨ds, hds, listed_of_optional hlist hend fun hlist =>
    listed_of_commaTerminated (ends_rule.1 hlist) hend⟩

theorem exists_of_objectLiteral (h : (rule .objectLiteral).Ends cs rest) :
    ∃ ds, cs = '\x7b' :: ds ∧ Listed (rule .propertyDefinition) '\x7d' (skip ds) rest := by
  obtain ⟨ds, mid, hds, hlist, hend⟩ := (ends_enclosed rfl rfl).1 (ends_rule.1 h)
  exact ⟨ds, hds, listed_of_optional hlist hend fun hlist =>
    listed_of_commaTerminated (ends_rule.1 hlist) hend⟩

/-- An item of a list of patterns. -/
def patternItem : Pattern :=
  firstOf (rule .restElement) [rule .bindingElement]

/-- An item of a list of values. -/
def valueItem : Pattern :=
  firstOf (rule .spreadElement) [rule .assignmentExpression]

theorem exists_of_arrayPattern (h : (rule .arrayPattern).Ends cs rest) :
    ∃ ds, cs = '[' :: ds ∧ Listed patternItem ']' (skip ds) rest := by
  obtain ⟨ds, hds, hlist⟩ := listed_of_slots (ends_rule.1 h)
  exact ⟨ds, hds, hlist.imp fun _ _ hitem => ends_rule.1 hitem⟩

theorem exists_of_arrayLiteral (h : (rule .arrayLiteral).Ends cs rest) :
    ∃ ds, cs = '[' :: ds ∧ Listed valueItem ']' (skip ds) rest := by
  obtain ⟨ds, hds, hlist⟩ := listed_of_slots (ends_rule.1 h)
  exact ⟨ds, hds, hlist.imp fun _ _ hitem => ends_rule.1 hitem⟩

theorem exists_of_parenthesizedParameters (h : (rule .parenthesizedParameters).Ends cs rest) :
    ∃ ds, cs = '(' :: ds ∧ Listed patternItem ')' (skip ds) rest := by
  obtain ⟨ds, mid, hds, hlist, hend⟩ := (ends_enclosed rfl rfl).1 (ends_rule.1 h)
  refine ⟨ds, hds, listed_of_optional hlist hend fun hlist => ?_⟩
  exact (listed_of_commaTerminated (ends_rule.1 hlist) hend).imp fun _ _ hitem => ends_rule.1 hitem

theorem exists_of_arguments (h : (rule .arguments).Ends cs rest) :
    ∃ ds, cs = '(' :: ds ∧ Listed valueItem ')' (skip ds) rest := by
  obtain ⟨ds, mid, hds, hlist, hend⟩ := (ends_enclosed rfl rfl).1 (ends_rule.1 h)
  refine ⟨ds, hds, listed_of_optional hlist hend fun hlist => ?_⟩
  exact (listed_of_commaTerminated (ends_rule.1 hlist) hend).imp fun _ _ hitem => ends_rule.1 hitem

theorem cases_of_bindingTarget (h : (rule .bindingTarget).Ends cs rest) :
    (rule .objectPattern).Ends cs rest ∨ (rule .arrayPattern).Ends cs rest
      ∨ (rule .identifier).Ends cs rest := by
  obtain ⟨p, hp, hends⟩ := exists_of_ends_firstOf (ends_rule.1 h)
  simp only [List.mem_cons, List.not_mem_nil, or_false] at hp
  rcases hp with rfl | rfl | rfl
  · exact .inl hends
  · exact .inr (.inl hends)
  · exact .inr (.inr hends)

theorem front_of_bindingTarget (h : (rule .bindingTarget).Ends cs rest) : Front targetLeads cs := by
  obtain h | h | h := cases_of_bindingTarget h
  · obtain ⟨ds, rfl, -⟩ := exists_of_objectPattern h
    exact (front_mark _ ds).mono (by decide)
  · obtain ⟨ds, rfl, -⟩ := exists_of_arrayPattern h
    exact (front_mark _ ds).mono (by decide)
  · exact (front_of_identifier h).mono (by decide)

/-! ## Items -/

theorem ends_dots {p : Pattern} : (sequence [word "...", layout, p]).Ends cs rest
    ↔ ∃ ds, cs = '.' :: '.' :: '.' :: ds ∧ p.Ends (skip ds) rest := by
  constructor
  · intro h
    obtain ⟨ds, hdots, h⟩ := ends_both.1 h
    exact ⟨ds, ends_text.1 hdots, ends_layout_both.1 h⟩
  · rintro ⟨ds, hdots, h⟩
    exact ends_both.2 ⟨ds, ends_text.2 hdots, ends_layout_both.2 h⟩

theorem ends_initializer : initializer.Ends cs rest ↔ ∃ ds, skip cs = '=' :: ds
    ∧ (word "=").Refuses ds ∧ (rule .assignmentExpression).Ends (skip ds) rest := by
  constructor
  · intro h
    obtain ⟨ds, hequals, h⟩ := ends_both.1 (ends_layout_both.1 h)
    obtain ⟨_, habsent, h⟩ := ends_both.1 h
    obtain ⟨hno, rfl⟩ := ends_absent.1 habsent
    exact ⟨_, (ends_word rfl).1 hequals, hno, ends_layout_both.1 h⟩
  · rintro ⟨ds, hequals, hno, h⟩
    exact ends_layout_both.2 (ends_both.2 ⟨ds, (ends_word rfl).2 hequals,
      ends_both.2 ⟨ds, ends_absent.2 ⟨hno, rfl⟩, ends_layout_both.2 h⟩⟩)

/-- A target is without a default, or has one. -/
theorem ends_bindingElement : (rule .bindingElement).Ends cs rest
    ↔ ∃ mid, (rule .bindingTarget).Ends cs mid
      ∧ (initializer.Ends mid rest ∨ initializer.Refuses mid ∧ mid = rest) := by
  rw [ends_rule]
  constructor
  · intro h
    obtain ⟨mid, htarget, h⟩ := ends_both.1 h
    exact ⟨mid, htarget, ends_optional.1 h⟩
  · rintro ⟨mid, htarget, h⟩
    exact ends_both.2 ⟨mid, htarget, ends_optional.2 h⟩

/-- Behind an item of a list no default follows. -/
theorem bindingElement_of_bindingTarget (h : (rule .bindingTarget).Ends cs mid)
    (hfront : Front listMarks (skip mid)) : (rule .bindingElement).Ends cs mid :=
  ends_bindingElement.2
    ⟨mid, h, .inr ⟨refuses_layout_both.2 (hfront.refuses (by decide)), rfl⟩⟩

/-- A value is no spread value. -/
theorem valueItem_of_assignmentExpression (h : (rule .assignmentExpression).Ends cs rest) :
    valueItem.Ends cs rest := by
  refine ends_either.2 (.inr ⟨?_, h⟩)
  rcases refuses_or_ends (rule .spreadElement) cs with hspread | ⟨mid, hspread⟩
  · exact hspread
  · obtain ⟨ds, rfl, -⟩ := ends_dots.1 (ends_rule.1 hspread)
    have hfront : Front [.dots] ('.' :: '.' :: '.' :: ds) := ⟨.dots, List.mem_cons_self, _, rfl⟩
    exact hfront.absurd h (by decide)

theorem exists_of_parenthesizedExpression (h : (rule .parenthesizedExpression).Ends cs rest) :
    ∃ ds, cs = '(' :: ds ∧ Listed valueItem ')' (skip ds) rest := by
  obtain ⟨ds, mid, hds, hlist, hend⟩ := (ends_enclosed rfl rfl).1 (ends_rule.1 h)
  exact ⟨ds, hds, (listed_of_commaSeparated (ends_rule.1 hlist) hend).imp
    fun _ _ => valueItem_of_assignmentExpression⟩

theorem exists_of_computedPropertyName (h : (rule .computedPropertyName).Ends cs rest) :
    ∃ ds, cs = '[' :: ds ∧ Listed valueItem ']' (skip ds) rest := by
  obtain ⟨ds, mid, hds, hitem, hend⟩ := (ends_enclosed rfl rfl).1 (ends_rule.1 h)
  exact ⟨ds, hds, .last (valueItem_of_assignmentExpression hitem) hend⟩

/-- In front of texts shorter than `n`, a binding element and an expression end together where an
item of a list ends. -/
def Agree (n : Nat) : Prop :=
  ∀ cs : List Char, cs.length < n → ∀ mid mid', (rule .bindingElement).Ends cs mid →
    (rule .assignmentExpression).Ends cs mid' → Front listMarks (skip mid) → mid = mid'

namespace Agree

variable {n : Nat}

/-- What stands behind the dots ends together. -/
theorem behind_dots (hagree : Agree n) (hlen : cs.length < n) {ds : List Char}
    (hdots : cs = '.' :: '.' :: '.' :: ds) (hrest : (rule .bindingTarget).Ends (skip ds) rest)
    (hspread : (rule .assignmentExpression).Ends (skip ds) rest')
    (hfront : Front listMarks (skip rest)) : rest = rest' := by
  have hskip := length_skip_le ds
  rw [hdots, List.length_cons, List.length_cons, List.length_cons] at hlen
  exact hagree _ (by omega) _ _ (bindingElement_of_bindingTarget hrest hfront) hspread hfront

theorem item (hagree : Agree n) (hlen : cs.length < n) (h : patternItem.Ends cs rest)
    (h' : valueItem.Ends cs rest') (hfront : Front listMarks (skip rest)) : rest = rest' := by
  rcases ends_either.1 h with hrest | ⟨-, helement⟩
  · obtain ⟨ds, hdots, htarget⟩ := ends_dots.1 (ends_rule.1 hrest)
    have hdotted : Front [.dots] cs := ⟨.dots, List.mem_cons_self, '.' :: ds, hdots⟩
    rcases ends_either.1 h' with hspread | ⟨-, hvalue⟩
    · obtain ⟨ds', hdots', hvalue⟩ := ends_dots.1 (ends_rule.1 hspread)
      obtain rfl : ds = ds' := by simpa [hdots] using hdots'
      exact hagree.behind_dots hlen hdots htarget hvalue hfront
    · exact hdotted.absurd hvalue (by decide)
  · obtain ⟨mid, htarget, -⟩ := ends_bindingElement.1 helement
    rcases ends_either.1 h' with hspread | ⟨-, hvalue⟩
    · exact (front_of_bindingTarget htarget).absurd hspread (by decide)
    · exact hagree cs hlen _ _ helement hvalue hfront

/-- Lists of patterns and of values end together. -/
theorem listed (hagree : Agree n) (hlen : cs.length < n) {close : Char} (hclose : close ∈ closers)
    (h : Listed patternItem close cs rest) (h' : Listed valueItem close cs rest') :
    rest = rest' :=
  Listed.same_end hclose (by decide) (by decide)
    (fun _ hds _ _ h h' hfront _ => hagree.item (hds.trans_lt hlen) h h' hfront) h h'

end Agree

/-! ## Properties -/

/-- What may stand behind a name in braces, apart from parameters. -/
def nameMarks : List Lead :=
  .mark ':' :: .mark '=' :: listMarks

/-- What may stand behind a binding target. -/
def targetMarks : List Lead :=
  .mark '=' :: listMarks

theorem propertyName_of_name (h : (token .name).Ends cs rest) :
    (rule .propertyName).Ends cs rest :=
  ends_rule.2 (ends_either.2 (.inl h))

/-- Behind a name that neither parameters nor another name follow, no method goes on. -/
theorem refuses_methodDef (hname : (rule .propertyName).Ends cs mid)
    (hfront : Front nameMarks (skip mid)) : (rule .methodDef).Refuses cs := by
  have hbehind : Front (.blank :: .mark '/' :: nameMarks) (skipLine mid) := by
    rcases skip_eq_or_front (skipLine mid) with hskip | hblank
    · rw [skip_skipLine] at hskip
      rw [← hskip]
      exact hfront.mono (by decide)
    · exact hblank.mono (by decide)
  refine (refuses_or_ends _ _).resolve_right ?_
  rintro ⟨rest, h⟩
  obtain ⟨p, hp, hends⟩ := exists_of_ends_firstOf (ends_rule.1 h)
  simp only [List.mem_cons, List.not_mem_nil, or_false] at hp
  rcases hp with rfl | rfl | rfl | rfl
  · -- The name is `get` or `set`, and the name of an accessor would follow.
    obtain ⟨kind, hkind, hends⟩ := ends_both.1 (ends_rule.1 hends)
    have hsame : kind = mid := by
      rcases ends_either.1 (ends_rule.1 hkind) with hget | ⟨-, hset⟩
      · exact (propertyName_of_name (name_of_keyword (ends_drop.2 hget))).unique hname
      · exact (propertyName_of_name (name_of_keyword (ends_drop.2 hset))).unique hname
    obtain ⟨_, hsecond, -⟩ := ends_both.1 (ends_layout_both.1 hends)
    rw [hsame] at hsecond
    exact hfront.absurd hsecond (by decide)
  · -- The name is `async`, and a star or another name would follow on its line.
    obtain ⟨behind, hasync, hends⟩ := ends_both.1 (ends_rule.1 hends)
    obtain rfl := (propertyName_of_name (name_of_keyword hasync)).unique hname
    obtain ⟨_, hline, hends⟩ := ends_both.1 hends
    obtain rfl := ends_sameLine.1 hline
    obtain ⟨_, hstar, hends⟩ := ends_both.1 hends
    obtain ⟨_, hsecond, -⟩ := ends_both.1 hends
    rcases ends_optional.1 hstar with hstar | ⟨-, rfl⟩
    · exact hbehind.absurd hstar (by decide)
    · exact hbehind.absurd hsecond (by decide)
  · obtain ⟨_, hstar, -⟩ := ends_both.1 (ends_rule.1 hends)
    rw [(ends_word rfl).1 hstar] at hname
    exact (front_mark '*' _).absurd hname (by decide)
  · -- The parameters would follow.
    obtain ⟨_, hfirst, hends⟩ := ends_both.1 (ends_rule.1 hends)
    rw [hfirst.unique hname] at hends
    exact hfront.absurd (ends_layout_both.1 hends) (by decide)

/-- A property with such a name has a value or is the name alone. -/
theorem cases_of_propertyDefinition (hname : (rule .propertyName).Ends cs mid)
    (hfront : Front nameMarks (skip mid)) (h : (rule .propertyDefinition).Ends cs rest) :
    (∃ ds, skip mid = ':' :: ds ∧ (rule .assignmentExpression).Ends (skip ds) rest)
      ∨ rest = mid := by
  obtain ⟨p, hp, hends⟩ := exists_of_ends_firstOf (ends_rule.1 h)
  simp only [List.mem_cons, List.not_mem_nil, or_false] at hp
  rcases hp with rfl | rfl | rfl | rfl
  · obtain ⟨ds, rfl, -⟩ := ends_dots.1 (ends_rule.1 hends)
    have hdots : Front [.dots] ('.' :: '.' :: '.' :: ds) := ⟨.dots, List.mem_cons_self, _, rfl⟩
    exact hdots.absurd hname (by decide)
  · obtain ⟨_, hfirst, hends⟩ := ends_both.1 (ends_rule.1 hends)
    obtain rfl := hfirst.unique hname
    obtain ⟨ds, hcolon, hends⟩ := ends_both.1 (ends_layout_both.1 hends)
    exact .inl ⟨ds, (ends_word rfl).1 hcolon, ends_layout_both.1 hends⟩
  · exact ((refuses_methodDef hname hfront).not_ends hends).elim
  · obtain ⟨_, hidentifier, habsent⟩ := ends_both.1 (ends_rule.1 hends)
    obtain ⟨-, rfl⟩ := ends_absent.1 habsent
    exact .inr ((propertyName_of_name (name_of_identifier hidentifier)).unique hname)

/-- A property that begins with a bracket has a computed name. -/
theorem exists_computed_of_definition {ds : List Char}
    (h : (rule .propertyDefinition).Ends ('[' :: ds) rest) :
    ∃ mid, (rule .computedPropertyName).Ends ('[' :: ds) mid
      ∧ (rule .propertyName).Ends ('[' :: ds) mid := by
  have hfront := front_mark '[' ds
  rcases refuses_or_ends (rule .propertyName) ('[' :: ds) with hno | ⟨mid, hname⟩
  · obtain ⟨p, hp, hends⟩ := exists_allowed_of_firstOf
      [rule .keyedProperty, rule .methodDef] (ends_rule.1 h) hfront
      (by decide)
    simp only [List.mem_cons, List.not_mem_nil, or_false] at hp
    rcases hp with rfl | rfl
    · obtain ⟨_, hfirst, -⟩ := ends_both.1 (ends_rule.1 hends)
      exact (hno.not_ends hfirst).elim
    · have hplain : (rule .plainMethod).Ends ('[' :: ds) rest :=
        ends_of_firstOf (ends_rule.1 hends) hfront (by decide)
      obtain ⟨_, hfirst, -⟩ := ends_both.1 (ends_rule.1 hplain)
      exact (hno.not_ends hfirst).elim
  · exact ⟨mid, ends_of_firstOf (ends_rule.1 hname) hfront (by decide), hname⟩

/-- What stands behind the target of an item. -/
theorem front_behind_target (h : initializer.Ends mid rest ∨ initializer.Refuses mid ∧ mid = rest)
    (hfront : Front listMarks (skip rest)) : Front targetMarks (skip mid) := by
  rcases h with h | ⟨-, rfl⟩
  · obtain ⟨ds, hequals, -⟩ := ends_initializer.1 h
    rw [hequals]
    exact (front_mark '=' ds).mono (by decide)
  · exact hfront.mono (by decide)

theorem refuses_initializer (hfront : Front listMarks (skip mid)) : initializer.Refuses mid :=
  refuses_layout_both.2 (hfront.refuses (by decide))

namespace Agree

variable {n : Nat}

/-- A target that may be a property of an object is its name. -/
theorem propertyName_of_target (hagree : Agree n) (hlen : cs.length < n)
    (h : (rule .bindingTarget).Ends cs mid) (h' : (rule .propertyDefinition).Ends cs rest') :
    (rule .propertyName).Ends cs mid := by
  obtain h | h | h := cases_of_bindingTarget h
  · obtain ⟨ds, rfl, -⟩ := exists_of_objectPattern h
    exact (front_mark _ ds).absurd h' (by decide)
  · obtain ⟨ds, rfl, hlist⟩ := exists_of_arrayPattern h
    obtain ⟨mid', hcomputed, hname⟩ := exists_computed_of_definition h'
    obtain ⟨ds', hds, hlist'⟩ := exists_of_computedPropertyName hcomputed
    obtain rfl := (List.cons.inj hds).2
    have hskip := length_skip_le ds
    rw [List.length_cons] at hlen
    rwa [hagree.listed (by omega) (by decide) hlist hlist']
  · exact propertyName_of_name (name_of_identifier h)

/-- Properties of patterns and of literals end together. -/
theorem property (hagree : Agree n) (hlen : cs.length < n)
    (h : (rule .patternProperty).Ends cs rest) (h' : (rule .propertyDefinition).Ends cs rest')
    (hfront : Front listMarks (skip rest)) (hfront' : Front listMarks (skip rest')) :
    rest = rest' := by
  obtain ⟨p, hp, hends⟩ := exists_of_ends_firstOf (ends_rule.1 h)
  simp only [List.mem_cons, List.not_mem_nil, or_false] at hp
  rcases hp with rfl | rfl | rfl
  · -- Behind dots there is a target on one side and a value on the other.
    obtain ⟨ds, hdots, htarget⟩ := ends_dots.1 (ends_rule.1 hends)
    have hdotted : Front [.dots] cs := ⟨.dots, List.mem_cons_self, '.' :: ds, hdots⟩
    have hspread : (rule .spreadElement).Ends cs rest' :=
      ends_of_firstOf (ends_rule.1 h') hdotted (by decide)
    obtain ⟨ds', hdots', hvalue⟩ := ends_dots.1 (ends_rule.1 hspread)
    obtain rfl : ds = ds' := by simpa [hdots] using hdots'
    exact hagree.behind_dots hlen hdots htarget hvalue hfront
  · -- The colon behind the key is that of a property with a value, which is shorter.
    obtain ⟨mid, hname, hends⟩ := ends_both.1 (ends_rule.1 hends)
    obtain ⟨ds, hcolon, hends⟩ := ends_both.1 (ends_layout_both.1 hends)
    have hcolon := (ends_word rfl).1 hcolon
    have helement := ends_layout_both.1 hends
    have hmarks : Front nameMarks (skip mid) := hcolon ▸ (front_mark ':' ds).mono (by decide)
    rcases cases_of_propertyDefinition hname hmarks h' with ⟨ds', hcolon', hvalue⟩ | rfl
    · rw [hcolon] at hcolon'
      obtain rfl := (List.cons.inj hcolon').2
      have hmid := hname.length_le
      have hskip := length_skip_le mid
      have hskip' := length_skip_le ds
      rw [hcolon, List.length_cons] at hskip
      exact hagree _ (by omega) _ _ helement hvalue hfront
    · exact absurd hcolon (hfront'.ne_cons (by decide))
  · -- A name without a colon is the property; where it ends no default begins.
    obtain ⟨mid, htarget, hdefault⟩ := ends_bindingElement.1 hends
    have hmarks := front_behind_target hdefault hfront
    have hname := hagree.propertyName_of_target hlen htarget h'
    rcases cases_of_propertyDefinition hname (hmarks.mono (by decide)) h' with
      ⟨ds, hcolon, -⟩ | rfl
    · exact absurd hcolon (hmarks.ne_cons (by decide))
    · rcases hdefault with hdefault | ⟨-, rfl⟩
      · exact ((refuses_initializer hfront').not_ends hdefault).elim
      · rfl

end Agree

namespace Agree

variable {n : Nat}

/-- A target and a left-hand side end together where a target ends. -/
theorem target (hagree : Agree n) (hlen : cs.length ≤ n) (h : (rule .bindingTarget).Ends cs mid)
    (h' : (rule .leftHandSideExpression).Ends cs rest) (hmarks : Front targetMarks (skip mid)) :
    rest = mid := by
  obtain ⟨head, hhead, htails⟩ := ends_leftHandSideExpression.1 h'
  have hsame : head = mid := by
    obtain h | h | h := cases_of_bindingTarget h
    · obtain ⟨ds, rfl, hlist⟩ := exists_of_objectPattern h
      have hfront := front_mark '\x7b' ds
      have hprimary : (rule .primaryExpression).Ends ('\x7b' :: ds) head :=
        ends_of_firstOf (ends_rule.1 hhead) hfront (by decide)
      have hliteral : (rule .objectLiteral).Ends ('\x7b' :: ds) head :=
        ends_of_firstOf (ends_rule.1 hprimary) hfront (by decide)
      obtain ⟨ds', hds, hlist'⟩ := exists_of_objectLiteral hliteral
      obtain rfl := (List.cons.inj hds).2
      have hskip := length_skip_le ds
      rw [List.length_cons] at hlen
      exact (Listed.same_end (by decide) (by decide) (by decide)
        (fun _ hle _ _ h h' => hagree.property (by omega) h h') hlist hlist').symm
    · obtain ⟨ds, rfl, hlist⟩ := exists_of_arrayPattern h
      have hfront := front_mark '[' ds
      have hprimary : (rule .primaryExpression).Ends ('[' :: ds) head :=
        ends_of_firstOf (ends_rule.1 hhead) hfront (by decide)
      have hliteral : (rule .arrayLiteral).Ends ('[' :: ds) head :=
        ends_of_firstOf (ends_rule.1 hprimary) hfront (by decide)
      obtain ⟨ds', hds, hlist'⟩ := exists_of_arrayLiteral hliteral
      obtain rfl := (List.cons.inj hds).2
      have hskip := length_skip_le ds
      rw [List.length_cons] at hlen
      exact (hagree.listed (by omega) (by decide) hlist hlist').symm
    · exact eq_of_lhsHead h hmarks (by decide) hhead
  subst hsame
  exact eq_head_of_front hmarks (by decide) htails

end Agree

end LoopBound.Grammar
