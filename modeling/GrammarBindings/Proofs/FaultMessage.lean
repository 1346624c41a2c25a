/-
  GrammarBindings.Proofs.FaultMessage

  What a message tells of a fault.  A message has a fixed part, which depends only on the rule
  that is broken and holds no quote, and behind it the offending text between quotes.  So the
  first quote divides a message: the rule is told from what stands before it, the text from
  what stands behind.  Nothing in either part is hidden, so a message is one line, whatever
  the text is.

    * `Rule`, `SpecFault.rule`, `SpecFault.offender` — a fault as a rule and a text.
    * `SpecFault.eq_of_message_eq` — both are told from the message.
    * `SpecFault.shows_message` — nothing in a message is hidden.

  Main statement: `SpecFault.message_tells`.
-/
import GrammarBindings.Proofs.Text.Quoted
import GrammarBindings.Spec

namespace GrammarBindings

/-! ## Controls and line breaks -/

/-- A control character: below the space, or among delete and the thirty-two behind it. -/
def IsControl (c : Char) : Prop := c.toNat < 0x20 ∨ 0x7F ≤ c.toNat ∧ c.toNat ≤ 0x9F

/-- The characters that end a line: feeds, tabs of lines, returns, the next-line control, and
    the separators of lines and of paragraphs. -/
def lineBreaks : List Char := ['\n', '\x0b', '\x0c', '\r', '\x85', '\u2028', '\u2029']

theorem isHidden_of_isControl {c : Char} (h : IsControl c) : isHidden c = true :=
  h.elim isHidden_of_lt_space fun h => isHidden_of_delete_le h.1 h.2

set_option maxRecDepth 4000 in
theorem isHidden_of_mem_lineBreaks : ∀ c ∈ lineBreaks, isHidden c = true :=
  List.all_iff_forall_prop.1 (by decide)

/-! ## The rules -/

/-- The rules of a spec, one for each role of an identifier. -/
inductive Rule
  | package
  | identifier (role : Role)
  | interop
  | accessors
  deriving DecidableEq

namespace Rule

def all : List Rule :=
  [package, identifier .className, identifier .methodName, identifier .functionName, interop,
    accessors]

theorem mem_all (r : Rule) : r ∈ all := by
  cases r with
  | package => decide
  | identifier role => cases role <;> decide
  | interop => decide
  | accessors => decide

/-- What the message says where the rule is broken, up to the text that breaks it. -/
def lead : Rule → String
  | package => "package name is not valid: "
  | identifier role => role.text ++ " is not a valid identifier: "
  | interop => "interop name must be a plain file name: "
  | accessors => "at least one language method is required"

/-- Each rule is told from what is said where it is broken. -/
theorem lead_inj {r s : Rule} (h : r.lead = s.lead) : r = s := by
  have hall : ∀ r ∈ all, ∀ s ∈ all, r.lead = s.lead → r = s := by decide
  exact hall r r.mem_all s s.mem_all h

/-- What is said where a rule is broken is printable and holds no quote. -/
theorem lead_plain (r : Rule) :
    (r.lead.toList.all fun c => (0x20 ≤ c.toNat ∧ c.toNat < 0x7F) ∧ c ≠ '"') = true := by
  have hall : ∀ r ∈ all, (r.lead.toList.all fun c =>
      (0x20 ≤ c.toNat ∧ c.toNat < 0x7F) ∧ c ≠ '"') = true := by decide
  exact hall r r.mem_all

theorem ne_quote_of_mem_lead {r : Rule} {c : Char} (hc : c ∈ r.lead.toList) : c ≠ '"' :=
  (of_decide_eq_true (List.all_eq_true.1 r.lead_plain c hc)).2

theorem shows_lead (r : Rule) : Shows r.lead.toList := fun c hc =>
  have hprintable := (of_decide_eq_true (List.all_eq_true.1 r.lead_plain c hc)).1
  isHidden_of_printable hprintable.1 hprintable.2

end Rule

/-- The fault where a rule is broken by a text. -/
def Rule.fault : Rule → String → SpecFault
  | package, name => .package name
  | identifier role, name => .identifier role name
  | interop, name => .interop name
  | accessors, _ => .noAccessors

namespace SpecFault

/-! ## A fault as a rule and a text -/

/-- The rule that is broken. -/
def rule : SpecFault → Rule
  | package _ => .package
  | identifier role _ => .identifier role
  | interop _ => .interop
  | noAccessors => .accessors

/-- The text that breaks the rule, if a text does. -/
def offender : SpecFault → Option String
  | package name => some name
  | identifier _ name => some name
  | interop name => some name
  | noAccessors => none

theorem fault_rule (f : SpecFault) : f.rule.fault (f.offender.getD "") = f := by
  cases f with
  | package name => rfl
  | identifier role name => rfl
  | interop name => rfl
  | noAccessors => rfl

/-! ## The two parts of a message -/

/-- What stands in quotes where a text breaks the rule. -/
def quotation (offender : Option String) : String := (offender.map quoted).getD ""

theorem message_eq (f : SpecFault) : f.message = f.rule.lead ++ quotation f.offender := by
  cases f with
  | package name => rfl
  | identifier role name => rfl
  | interop name => rfl
  | noAccessors => exact (String.append_empty).symm

theorem quotation_inj {o p : Option String} : quotation o = quotation p ↔ o = p := by
  refine ⟨fun h => ?_, fun h => h ▸ rfl⟩
  cases o with
  | none =>
    -- where there is no text nothing is quoted, and the empty text is quoted as two quotes
    cases p with
    | none => rfl
    | some t => exact absurd h.symm (quoted_ne_empty t)
  | some s =>
    cases p with
    | none => exact absurd h (quoted_ne_empty s)
    | some t => rw [quoted_inj.1 h]

/-- What stands in quotes is what is left from the first quote on. -/
theorem dropWhile_message (f : SpecFault) :
    f.message.toList.dropWhile (fun c => c ≠ '"') = (quotation f.offender).toList := by
  have hlead : ∀ c ∈ f.rule.lead.toList, decide (c ≠ '"') = true := fun c hc =>
    decide_eq_true (Rule.ne_quote_of_mem_lead hc)
  rw [message_eq, String.toList_append, List.dropWhile_append_of_pos hlead]
  cases f.offender with
  | none => rfl
  | some name =>
    -- a quotation begins with its quote
    change (quoted name).toList.dropWhile _ = (quoted name).toList
    rw [toList_quoted, List.dropWhile_cons_of_neg (by decide)]

/-- The rule and the text are told from the message. -/
theorem eq_of_message_eq {f g : SpecFault} (h : f.message = g.message) : f = g := by
  -- the text first: without what it quotes, a message is what is said of the rule
  have hquotation : quotation f.offender = quotation g.offender := by
    apply String.toList_inj.1
    rw [← dropWhile_message f, ← dropWhile_message g, h]
  have hlead : f.rule.lead = g.rule.lead := by
    rw [message_eq, message_eq, hquotation] at h
    exact String.append_left_inj _ |>.1 h
  rw [← fault_rule f, ← fault_rule g, Rule.lead_inj hlead, quotation_inj.1 hquotation]

theorem shows_quotation (o : Option String) : Shows (quotation o).toList := by
  cases o with
  | none => exact List.forall_mem_nil _
  | some name => exact shows_quoted name

/-- Nothing in a message is hidden. -/
theorem shows_message (f : SpecFault) : Shows f.message.toList := by
  rw [message_eq, String.toList_append]
  exact shows_append.2 ⟨f.rule.shows_lead, shows_quotation f.offender⟩

/-- Two messages are the same only for the same fault: the same rule, of the same role, broken
    by the same text.  And no message has a control character or a line break in it, whatever
    the text is. -/
theorem message_tells :
    (∀ f g : SpecFault, f.message = g.message ↔ f = g) ∧
    ∀ f : SpecFault, ∀ c ∈ f.message.toList, ¬ IsControl c ∧ c ∉ lineBreaks := by
  refine ⟨fun f g => ⟨eq_of_message_eq, fun h => h ▸ rfl⟩, fun f c hc => ?_⟩
  -- controls and line breaks are hidden, and nothing hidden is left
  have hshows := f.shows_message c hc
  constructor
  · intro hcontrol
    rw [isHidden_of_isControl hcontrol] at hshows
    cases hshows
  · intro hbreak
    rw [isHidden_of_mem_lineBreaks c hbreak] at hshows
    cases hshows

/-- The message about a method name with a line break, a quote and a line separator in it: it
    is told from that about a function name, and the backslashes in it are no line breaks. -/
theorem message_tells_lineBreaks :
    let f := SpecFault.identifier .methodName "a\n\"\u2028"
    f.message = "method name is not a valid identifier: \"a\\n\\\"\\u\x7b2028\x7d\"" ∧
      f.message ≠ (SpecFault.identifier .functionName "a\n\"\u2028").message ∧
      '\\' ∈ f.message.toList ∧ ¬ IsControl '\\' ∧ '\\' ∉ lineBreaks := by
  intro f
  have hmessage : f.message =
      "method name is not a valid identifier: \"a\\n\\\"\\u\x7b2028\x7d\"" := by
    decide +kernel
  have hmember : '\\' ∈ f.message.toList := by
    rw [hmessage]
    decide
  refine ⟨hmessage, fun h => ?_, hmember, message_tells.2 f _ hmember⟩
  injection (message_tells.1 f _).1 h with hrole
  cases hrole

end SpecFault

end GrammarBindings
