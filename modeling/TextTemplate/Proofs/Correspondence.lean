import TextTemplate.Proofs.RenderingShapes

/-!
# Templates of one form

Two templates have the same form if they differ in the selectors, the raw text and the spans of
their placeholders at most. Each placeholder of the one then corresponds to one of the other, at
whatever depth they stand, and what is known of two templates of one form is what is known of the
placeholders that correspond.
-/

namespace TextTemplate

mutual

/-- Templates of one form whose placeholders are related one by one. -/
inductive Template.Variant (R : Placeholder → Placeholder → Prop) : List Node → List Node → Prop
  | nil : Template.Variant R [] []
  | literal {l l' : Literal} {ns ns' : List Node} : l'.text = l.text → Template.Variant R ns ns' →
      Template.Variant R (.literal l :: ns) (.literal l' :: ns')
  | placeholder {p p' : Placeholder} {ns ns' : List Node} : R p p' → p'.alignment = p.alignment →
      Format.Variant? R p.format p'.format → Template.Variant R ns ns' →
      Template.Variant R (.placeholder p :: ns) (.placeholder p' :: ns')

/-- Formats, if there are any, whose specifiers and heads are of one form. -/
inductive Format.Variant? (R : Placeholder → Placeholder → Prop) :
    Option Format → Option Format → Prop
  | none : Format.Variant? R none none
  | some {f f' : Format} : Template.Variant R f.template f'.template →
      FormatterHead.Variant? R f.head f'.head → Format.Variant? R (some f) (some f')

/-- Heads, if there are any, with one name, the same options, and bodies of one form. -/
inductive FormatterHead.Variant? (R : Placeholder → Placeholder → Prop) :
    Option FormatterHead → Option FormatterHead → Prop
  | none : FormatterHead.Variant? R none none
  | some {head head' : FormatterHead} : head'.name = head.name → head'.options = head.options →
      Template.Variant R head.body head'.body → FormatterHead.Variant? R (some head) (some head')

end

/-- Two placeholders that stand at the same position of two templates: at their top level, in
specifiers, or in what is left of these behind the name of a formatter. -/
inductive Template.Corresponding : Template → Template → Placeholder → Placeholder → Prop
  | here {p p' : Placeholder} {ns ns' : Template} :
      Corresponding (.placeholder p :: ns) (.placeholder p' :: ns') p p'
  | behind {n n' : Node} {ns ns' : Template} {p p' : Placeholder} : Corresponding ns ns' p p' →
      Corresponding (n :: ns) (n' :: ns') p p'
  | specifier {q q' : Placeholder} {f f' : Format} {ns ns' : Template} {p p' : Placeholder} :
      q.format = some f → q'.format = some f' → Corresponding f.template f'.template p p' →
      Corresponding (.placeholder q :: ns) (.placeholder q' :: ns') p p'
  | body {q q' : Placeholder} {f f' : Format} {head head' : FormatterHead} {ns ns' : Template}
      {p p' : Placeholder} : q.format = some f → q'.format = some f' → f.head = some head →
      f'.head = some head' → Corresponding head.body head'.body p p' →
      Corresponding (.placeholder q :: ns) (.placeholder q' :: ns') p p'

namespace Template

theorem Contains.behind {n : Node} {ns : Template} {p : Placeholder} (h : ns.Contains p) :
    Contains (n :: ns) p := by
  cases h with
  | here hp => exact .here (List.mem_cons_of_mem n hp)
  | specifier hq hf hp => exact .specifier (List.mem_cons_of_mem n hq) hf hp
  | body hq hf hhead hp => exact .body (List.mem_cons_of_mem n hq) hf hhead hp

theorem Corresponding.contains {t t' : Template} {p p' : Placeholder}
    (h : Corresponding t t' p p') : t.Contains p ∧ t'.Contains p' := by
  induction h with
  | here => exact ⟨.here List.mem_cons_self, .here List.mem_cons_self⟩
  | behind _ ih => exact ⟨ih.1.behind, ih.2.behind⟩
  | specifier hf hf' _ ih =>
    exact ⟨.specifier List.mem_cons_self hf ih.1, .specifier List.mem_cons_self hf' ih.2⟩
  | body hf hf' hhead hhead' _ ih =>
    exact ⟨.body List.mem_cons_self hf hhead ih.1, .body List.mem_cons_self hf' hhead' ih.2⟩

end Template

variable {R R' : Placeholder → Placeholder → Prop}

/-! ## What holds of placeholders that correspond -/

mutual

/-- A relation may be replaced by one that holds of the placeholders that correspond. -/
theorem Template.Variant.imp : ∀ {ns ns' : List Node}, Template.Variant R ns ns' →
    (∀ p p', Template.Corresponding ns ns' p p' → R p p' → R' p p') → Template.Variant R' ns ns'
  | _, _, .nil, _ => .nil
  | _, _, .literal htext hns, himp => .literal htext (hns.imp fun p p' h ↦ himp p p' h.behind)
  | _, _, .placeholder hp hwidth hformat hns, himp =>
    .placeholder (himp _ _ .here hp) hwidth
      (hformat.imp (fun _ _ hf hf' p p' h ↦ himp p p' (.specifier hf hf' h))
        fun _ _ _ _ hf hf' hhead hhead' p p' h ↦ himp p p' (.body hf hf' hhead hhead' h))
      (hns.imp fun p p' h ↦ himp p p' h.behind)

theorem Format.Variant?.imp : ∀ {format format' : Option Format}, Format.Variant? R format format' →
    (∀ f f', format = some f → format' = some f' →
      ∀ p p', Template.Corresponding f.template f'.template p p' → R p p' → R' p p') →
    (∀ f f' head head', format = some f → format' = some f' → f.head = some head →
      f'.head = some head' →
        ∀ p p', Template.Corresponding head.body head'.body p p' → R p p' → R' p p') →
    Format.Variant? R' format format'
  | _, _, .none, _, _ => .none
  | _, _, .some htemplate hhead, himp, himp' =>
    .some (htemplate.imp (himp _ _ rfl rfl))
      (hhead.imp fun _ _ h h' ↦ himp' _ _ _ _ rfl rfl h h')

theorem FormatterHead.Variant?.imp : ∀ {head? head?' : Option FormatterHead},
    FormatterHead.Variant? R head? head?' →
    (∀ head head', head? = some head → head?' = some head' →
      ∀ p p', Template.Corresponding head.body head'.body p p' → R p p' → R' p p') →
    FormatterHead.Variant? R' head? head?'
  | _, _, .none, _ => .none
  | _, _, .some hname hoptions hbody, himp =>
    .some hname hoptions (hbody.imp (himp _ _ rfl rfl))

end

namespace Template.Variant

/-! ## What templates of one form have in common -/

theorem length : ∀ {ns ns' : List Node}, Template.Variant R ns ns' → ns'.length = ns.length
  | _, _, .nil => rfl
  | _, _, .literal _ hns => congrArg (· + 1) hns.length
  | _, _, .placeholder _ _ _ hns => congrArg (· + 1) hns.length

theorem hasPlaceholders : ∀ {ns ns' : List Node}, Template.Variant R ns ns' →
    Template.hasPlaceholders ns' = Template.hasPlaceholders ns
  | _, _, .nil => rfl
  | _, _, .literal _ hns => hns.hasPlaceholders
  | _, _, .placeholder _ _ _ _ => rfl

theorem literalTexts : ∀ {ns ns' : List Node}, Template.Variant R ns ns' →
    ns'.map Node.literalText = ns.map Node.literalText
  | _, _, .nil => rfl
  | _, _, .literal htext hns => congrArg₂ List.cons htext hns.literalTexts
  | _, _, .placeholder _ _ _ hns => congrArg (List.cons "") hns.literalTexts

theorem plainText? {t t' : Template} (h : Template.Variant R t t') :
    t'.plainText? = t.plainText? := by
  rw [Template.plainText?, Template.plainText?, h.hasPlaceholders, Template.literalText,
    Template.literalText, h.literalTexts]

end Template.Variant

end TextTemplate
