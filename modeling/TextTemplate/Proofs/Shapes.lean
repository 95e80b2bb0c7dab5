import TextTemplate.Path
import TextTemplate.Proofs.Insertion
import TextTemplate.Proofs.NumericNames

/-!
# The same data in different shapes

Members with names can be held by a map, by a record, or by a typed object. Each of these shapes is
followed by a source of its own, with a look-up of its own: a map is asked for a key, a record for a
member under a case mode, and an object first for the names that it declares. Where they hold the
same members, the answers are the same, and `resolve_hold` says which: that of the first member
whose name is the text of the selector under the case mode.

The one exception are names that are spelled as integers. A selector that is an integer never enters
a typed object, while maps and records take it for a name like any other.

## Values that are alike

`Value.Alike` relates values that differ at most in the shapes that hold their members, at any
depth. A selector takes such values to such values, or fails on both for the same reason, and so
does a path.
-/

namespace TextTemplate

/-! ## Shapes -/

/-- The shapes in which members with names can be held. An object also has a type name and a text of
its own. -/
inductive Shape where
  | map
  | record
  | object (typeName text : String)

namespace Shape

/-- Whether members can be held in a shape: an object gives access to none that is spelled as an
integer. -/
def Admits (members : List (String × Value)) : Shape → Prop
  | .object _ _ => ∀ m ∈ members, Selector.integer? m.1 = none
  | _ => True

/-- Members in sequence, held in a shape. A map and a record are built by inserting them one after
another. An object declares each name once, where it comes first, and has the last value that comes
with a name. -/
def hold (members : List (String × Value)) : Shape → Value
  | .map => .map (.ofList (members.map fun m ↦ (.str m.1, m.2)))
  | .record => Record.toValue (.ofList members)
  | .object typeName text =>
    .object
      { typeName
        memberNames := (members.map Prod.fst).eraseDups
        member := fun name ↦ findMember? members.reverse (· == name)
        text }

end Shape

/-- A selector that is taken for an integer is spelled as one. -/
def Selector.IsSpelled (s : Selector) : Prop := s.kind ≠ .name → (integer? s.text).isSome = true

theorem Selector.isSpelled_ofText (text : String) (span : Span) (leading : Bool) :
    (ofText text span leading).IsSpelled := by
  intro hkind
  unfold ofText at hkind ⊢
  cases hinteger : integer? text with
  | none =>
    rw [hinteger] at hkind
    exact absurd rfl hkind
  | some n => rfl

theorem Selector.IsSpelled.asIndex {s : Selector} (h : s.IsSpelled) : s.asIndex.IsSpelled := by
  obtain ⟨text, kind, span⟩ := s
  cases kind with
  | name => exact h
  | index n => exact h
  | positional n => exact fun _ ↦ h nofun

/-! ## Sources, one shape at a time -/

namespace SourceChain

variable (s : Selector) (case : CaseSensitivity)

/-- What passes the pair on may as well be the last source. -/
theorem resolve_singleton (source : ValueSource) (v : Value) :
    resolve [source] s v case = source.resolve s v case := by
  rw [resolve]
  cases source.resolve s v case <;> rfl

theorem builtin_map (m : OrderedMap Key Value) :
    builtin.resolve s (.map m) case = .ofFound (ValueSource.findKey? m s case) :=
  resolve_singleton s case .mapping (.map m)

theorem builtin_record (r : DynamicRecord) :
    builtin.resolve s (.record r) case = ValueSource.askRecord r s case :=
  resolve_singleton s case .dynamicRecord (.record r)

theorem builtin_object (o : TypedObject) :
    builtin.resolve s (.object o) case =
      if s.kind = .name then .ofFound (ValueSource.findMember? o s case) else .notApplicable := by
  have hchain : builtin.resolve s (.object o) case =
      ValueSource.typedObject.resolve s (.object o) case :=
    resolve_singleton s case .typedObject (.object o)
  rw [hchain, ValueSource.resolve, ValueSource.claims, ValueSource.follow]
  by_cases hname : s.kind = .name
  · rw [if_pos hname, if_pos (beq_iff_eq.mpr hname)]
  · rw [if_neg hname, if_neg (mt beq_iff_eq.mp hname)]

theorem builtin_list (items : List Value) :
    builtin.resolve s (.list items) case = ValueSource.findItem items s := by
  have hchain : builtin.resolve s (.list items) case =
      ValueSource.list.resolve s (.list items) case :=
    resolve_singleton s case .list (.list items)
  rw [hchain, ValueSource.resolve, ValueSource.claims, ValueSource.follow, ValueSource.findItem]
  cases s.index? <;> rfl

end SourceChain

/-! ## What a shape answers -/

namespace Shape

variable {members : List (String × Value)} {s : Selector} {case : CaseSensitivity}

/-- The member that a name leads to, in whatever shape. -/
def find? (members : List (String × Value)) (name : String) (case : CaseSensitivity) :
    Option Value :=
  (OrderedMap.ofList members).findFirst? (case.same name)

theorem find?_sensitive (members : List (String × Value)) (name : String) :
    find? members name .sensitive = (OrderedMap.ofList members).get? name := by
  have htest : CaseSensitivity.sensitive.same name = fun name' ↦ decide (name' = name) := by
    funext name'
    exact decide_eq_decide.mpr eq_comm
  rw [find?, htest, OrderedMap.get?]

theorem find?_eq_none (h : ∀ m ∈ members, Selector.integer? m.1 = none)
    {name : String} (hname : (Selector.integer? name).isSome = true) :
    find? members name case = none := by
  refine OrderedMap.findFirst?_eq_none fun name' hname' ↦ ?_
  rw [OrderedMap.keys_ofList, List.mem_eraseDups, List.mem_map] at hname'
  obtain ⟨m, hm, rfl⟩ := hname'
  rw [Bool.eq_false_iff]
  intro hsame
  rw [← case.eq_of_same hname hsame, h m hm] at hname
  exact absurd hname nofun

theorem resolve_map : SourceChain.builtin.resolve s (Shape.map.hold members) case =
    .ofFound (find? members s.text case) := by
  rw [hold, SourceChain.builtin_map, OrderedMap.ofList_map fun _ _ ↦ Key.str.inj]
  refine congrArg SourceOutcome.ofFound ?_
  cases case with
  | sensitive =>
    have htext : (fun key : Key ↦ decide (key = .str s.text)) ∘ Key.str =
        CaseSensitivity.sensitive.same s.text := by
      funext name
      exact decide_eq_decide.mpr ⟨fun h ↦ (Key.str.inj h).symm, fun h ↦ congrArg Key.str h.symm⟩
    -- None of the keys is an integer.
    have hinteger : ∀ n, (OrderedMap.ofList members).findFirst?
        ((fun key : Key ↦ decide (key = .int n)) ∘ Key.str) = none := fun n ↦
      OrderedMap.findFirst?_eq_none fun _ _ ↦ rfl
    simp only [ValueSource.findKey?, OrderedMap.get?, OrderedMap.findFirst?_map, htext, hinteger]
    cases s.index? <;> exact Option.or_none
  | insensitive =>
    rw [ValueSource.findKey?, OrderedMap.findFirst?_map]
    rfl

theorem resolve_record : SourceChain.builtin.resolve s (Shape.record.hold members) case =
    .ofFound (find? members s.text case) := by
  have hmember : DynamicRecord.member ⟨Record.member (.ofList members), "Record"⟩ s.text case =
      (find? members s.text case).elim (.error (.missing s.text)) .ok := by
    cases case with
    | sensitive => rw [find?_sensitive]; rfl
    | insensitive => rfl
  rw [hold, Record.toValue, SourceChain.builtin_record, ValueSource.askRecord, hmember]
  cases find? members s.text case <;> rfl

/-- An object gives what a map gives, since it declares the keys of the map in their order. -/
theorem resolve_object {typeName text : String} (hs : s.IsSpelled)
    (h : (Shape.object typeName text).Admits members) :
    SourceChain.builtin.resolve s ((Shape.object typeName text).hold members) case =
      .ofFound (find? members s.text case) := by
  have hmember : (fun name ↦ findMember? members.reverse (· == name)) =
      (OrderedMap.ofList members).get? := by
    funext name
    rw [OrderedMap.get?_ofList]
    rfl
  rw [hold, SourceChain.builtin_object, hmember, ← OrderedMap.keys_ofList]
  by_cases hname : s.kind = .name
  · rw [if_pos hname]
    refine congrArg SourceOutcome.ofFound ?_
    cases case with
    | sensitive => rw [find?_sensitive, ValueSource.findMember?]
    | insensitive => rw [ValueSource.findMember?, OrderedMap.bind_get?_find?_keys, find?]
  · rw [if_neg hname, find?_eq_none h (hs hname)]
    rfl

/-- **Every shape answers alike.** Members lead to the first of them whose name is the text of the
selector under the case mode, whatever shape holds them. -/
theorem resolve_hold {shape : Shape} (h : shape.Admits members) (hs : s.IsSpelled)
    (case : CaseSensitivity) :
    SourceChain.builtin.resolve s (shape.hold members) case =
      .ofFound (find? members s.text case) := by
  cases shape with
  | map => exact resolve_map
  | record => exact resolve_record
  | object typeName text => exact resolve_object hs h

end Shape

/-! ## Values that are alike -/

/-- Values that differ at most in the shapes that hold their members, also inside of lists, and of
maps with whatever keys. -/
inductive Value.Alike : Value → Value → Prop
  | refl (v : Value) : Alike v v
  | list {items items' : List Value} : List.Forall₂ Alike items items' →
      Alike (.list items) (.list items')
  | map {es es' : List (Key × Value)} : es'.map Prod.fst = es.map Prod.fst →
      List.Forall₂ Alike (es.map Prod.snd) (es'.map Prod.snd) → Alike (.map ⟨es⟩) (.map ⟨es'⟩)
  | held {members members' : List (String × Value)} {shape shape' : Shape} :
      members'.map Prod.fst = members.map Prod.fst →
      List.Forall₂ Alike (members.map Prod.snd) (members'.map Prod.snd) →
      shape.Admits members → shape'.Admits members' →
      Alike (shape.hold members) (shape'.hold members')

/-- Both find nothing, both fail for the same reason, or both lead to values that are alike. -/
inductive SourceOutcome.Alike : SourceOutcome → SourceOutcome → Prop
  | resolved {v v' : Value} : v.Alike v' → Alike (.resolved v) (.resolved v')
  | notApplicable : Alike .notApplicable .notApplicable
  | error (kind : ResolutionErrorKind) : Alike (.error kind) (.error kind)

theorem SourceOutcome.Alike.refl : ∀ outcome : SourceOutcome, outcome.Alike outcome
  | .resolved v => .resolved (.refl v)
  | .notApplicable => .notApplicable
  | .error kind => .error kind

theorem SourceOutcome.alike_ofFound {found found' : Option Value}
    (h : Option.Rel Value.Alike found found') : (ofFound found).Alike (ofFound found') := by
  cases h with
  | none => exact .notApplicable
  | some hv => exact .resolved hv

theorem Value.rel_getElem? {items items' : List Value} (h : List.Forall₂ Alike items items')
    (i : Nat) : Option.Rel Alike items[i]? items'[i]? := by
  induction h generalizing i with
  | nil => exact .none
  | cons hitem _ ih =>
    cases i with
    | zero => exact .some hitem
    | succ i => exact ih i

namespace ValueSource

theorem alike_findKey? {es es' : List (Key × Value)}
    (h : OrderedMap.Entrywise Value.Alike es es') (s : Selector) (case : CaseSensitivity) :
    Option.Rel Value.Alike (findKey? ⟨es⟩ s case) (findKey? ⟨es'⟩ s case) := by
  cases case with
  | insensitive => exact h.findFirst? (keyMatches s)
  | sensitive =>
    have hget : ∀ key, Option.Rel Value.Alike (OrderedMap.get? ⟨es⟩ key)
        (OrderedMap.get? ⟨es'⟩ key) := fun key ↦ h.findFirst? _
    have htext := hget (.str s.text)
    rw [findKey?, findKey?]
    generalize OrderedMap.get? ⟨es⟩ (.str s.text) = found at htext ⊢
    generalize OrderedMap.get? ⟨es'⟩ (.str s.text) = found' at htext ⊢
    cases htext with
    | some hv => exact .some hv
    | none =>
      rw [Option.none_or, Option.none_or]
      cases s.index? with
      | none => exact .none
      | some n => exact hget (.int n)

theorem alike_findItem {items items' : List Value} (h : List.Forall₂ Value.Alike items items')
    (s : Selector) : (findItem items s).Alike (findItem items' s) := by
  rw [findItem, findItem, ← h.length_eq]
  cases s.index? with
  | none => exact .notApplicable
  | some n =>
    have hitem := Value.rel_getElem? h n.toInt.toNat
    simp only
    by_cases hn : n < 0
    · rw [if_pos hn, if_pos hn]
      exact .error _
    · rw [if_neg hn, if_neg hn]
      generalize items[n.toInt.toNat]? = item at hitem ⊢
      generalize items'[n.toInt.toNat]? = item' at hitem ⊢
      cases hitem with
      | none => exact .error _
      | some hv => exact .resolved hv

end ValueSource

/-- **Selectors in data that is alike.** A selector takes values that are alike to values that are
alike, or fails on both. -/
theorem Value.Alike.resolve {v v' : Value} (h : v.Alike v') {s : Selector} (hs : s.IsSpelled)
    (case : CaseSensitivity) :
    (SourceChain.builtin.resolve s v case).Alike (SourceChain.builtin.resolve s v' case) := by
  cases h with
  | refl v => exact .refl _
  | list hitems =>
    rw [SourceChain.builtin_list, SourceChain.builtin_list]
    exact ValueSource.alike_findItem hitems s
  | map hkeys hvalues =>
    have hentries := OrderedMap.Entrywise.of_keys hkeys hvalues
    rw [SourceChain.builtin_map, SourceChain.builtin_map]
    exact SourceOutcome.alike_ofFound (ValueSource.alike_findKey? hentries s case)
  | held hnames hvalues hadmits hadmits' =>
    have hentries := (OrderedMap.Entrywise.of_keys hnames hvalues).ofList
    rw [Shape.resolve_hold hadmits hs, Shape.resolve_hold hadmits' hs]
    exact SourceOutcome.alike_ofFound (hentries.findFirst? _)

/-! ## Paths -/

/-- Trails of the same selectors, to values that are alike. -/
structure Trail.Alike (t t' : Trail) : Prop where
  depth : t'.depth = t.depth
  resolved : t'.resolved = t.resolved
  current : t.current.Alike t'.current

/-- Paths that both fail, at the same selector and for the same reason, or that both lead to values
that are alike. -/
inductive Path.Alike : Except PathFailure Trail → Except PathFailure Trail → Prop
  | failed (f : PathFailure) : Alike (.error f) (.error f)
  | reached {t t' : Trail} : t.Alike t' → Alike (.ok t) (.ok t')

namespace Trail.Alike

variable {t t' : Trail}

theorem advance (h : t.Alike t') (s : Selector) {v v' : Value} (hv : v.Alike v') :
    (t.advance s v).Alike (t'.advance s v') := by
  refine ⟨?_, ?_, hv⟩
  · rw [Trail.advance, Trail.advance, h.depth]
  · rw [Trail.advance, Trail.advance, h.resolved]

theorem fail (h : t.Alike t') (kind : ResolutionErrorKind) (selector : String) :
    Path.Alike (.error (t.fail kind selector)) (.error (t'.fail kind selector)) := by
  rw [Trail.fail, Trail.fail, h.depth, h.resolved]
  exact .failed _

end Trail.Alike

namespace Path

variable {case : CaseSensitivity}

theorem alike_follow {ss : List Selector} (hss : ∀ s ∈ ss, s.IsSpelled) {t t' : Trail}
    (h : t.Alike t') : Alike (follow .builtin case t ss) (follow .builtin case t' ss) := by
  induction ss generalizing t t' with
  | nil => exact .reached h
  | cons s ss ih =>
    obtain ⟨hs, hss⟩ := List.forall_mem_cons.mp hss
    have hstep := h.current.resolve hs case
    rw [follow, follow]
    generalize SourceChain.builtin.resolve s t.current case = outcome at hstep ⊢
    generalize SourceChain.builtin.resolve s t'.current case = outcome' at hstep ⊢
    cases hstep with
    | resolved hv => exact ih hss (h.advance s hv)
    | notApplicable => exact h.fail .notFound s.text
    | error kind => exact h.fail kind s.text

variable {args args' : List Value}

/-- A search ends at the same argument on both sides. -/
theorem alike_search {first : Selector} (hfirst : first.IsSpelled)
    (h : List.Forall₂ Value.Alike args args') :
    Alike (search .builtin case first args) (search .builtin case first args') := by
  induction h with
  | nil => exact .failed _
  | @cons arg arg' args args' harg _ ih =>
    have hstart : Trail.Alike {} {} := ⟨rfl, rfl, .refl .null⟩
    have hstep := harg.resolve hfirst.asIndex case
    rw [search, search]
    generalize SourceChain.builtin.resolve first.asIndex arg case = outcome at hstep ⊢
    generalize SourceChain.builtin.resolve first.asIndex arg' case = outcome' at hstep ⊢
    cases hstep with
    | resolved hv => exact .reached (hstart.advance first hv)
    | notApplicable => exact ih
    | error kind => exact .failed _

theorem rel_argument? (h : List.Forall₂ Value.Alike args args') (s : Selector) :
    Option.Rel Value.Alike (argument? args s) (argument? args' s) := by
  rw [argument?, argument?]
  cases s.kind with
  | positional n => exact Value.rel_getElem? h n
  | name => exact .none
  | index n => exact .none

/-- Among arguments that are alike, a path starts at values that are alike. -/
theorem alike_root {ss : List Selector} (hss : ∀ s ∈ ss, s.IsSpelled)
    (h : List.Forall₂ Value.Alike args args') :
    Alike (root .builtin case args ss) (root .builtin case args' ss) := by
  cases ss with
  | nil =>
    refine .reached ⟨rfl, rfl, ?_⟩
    cases h with
    | nil => exact .refl .null
    | cons harg _ => exact harg
  | cons first others =>
    have hstart : Trail.Alike {} {} := ⟨rfl, rfl, .refl .null⟩
    have hargument := rel_argument? h first
    rw [root, root]
    generalize argument? args first = found at hargument ⊢
    generalize argument? args' first = found' at hargument ⊢
    cases hargument with
    | some hv => exact .reached (hstart.advance first hv)
    | none => exact alike_search (hss first List.mem_cons_self) h

/-- **Paths in data that is alike.** Among arguments that are alike, a path leads to values that are
alike, or fails at the same selector for the same reason. -/
theorem alike_resolve {ss : List Selector} (hss : ∀ s ∈ ss, s.IsSpelled)
    (h : List.Forall₂ Value.Alike args args') :
    Alike (resolve .builtin case args ss) (resolve .builtin case args' ss) := by
  have hroot : Alike (root .builtin case args ss) (root .builtin case args' ss) :=
    alike_root hss h
  rw [resolve, resolve]
  generalize root .builtin case args ss = start at hroot ⊢
  generalize root .builtin case args' ss = start' at hroot ⊢
  cases hroot with
  | failed f => exact .failed f
  | @reached t t' ht =>
    have hrest : ∀ s ∈ ss.drop t.depth, s.IsSpelled := fun s hs ↦ hss s (List.mem_of_mem_drop hs)
    have hfollow : Alike (follow .builtin case t (ss.drop t.depth))
        (follow .builtin case t' (ss.drop t'.depth)) := by
      rw [ht.depth]
      exact alike_follow hrest ht
    exact hfollow

end Path

end TextTemplate
