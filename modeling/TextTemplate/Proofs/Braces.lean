import Mathlib.Data.List.Basic
import TextTemplate.Proofs.LookAhead
import TextTemplate.Proofs.Refusing

/-!
# Braces as brackets

Under backslash escapes the braces of a text are brackets: a backslash takes the character behind it
out, and what is left matches or does not. The reader knows nothing of this. It looks ahead from one
opening brace at a time and decodes escapes as it goes. `Template.braces_of_parse` says that it
comes to the same: a template has matching braces, and an error about a missing brace is about the
first brace of the text that has no partner.

## Matching

`Brace.Balanced` is the grammar of matching brackets, and two braces are partners if what lies
between them is balanced. Nothing in this refers to the reader or to its scan. In the other
direction the scan is one on lists of braces, `Brace.closes`, so that balanced braces are neutral
for it.
-/

namespace TextTemplate

/-- An unescaped brace and the byte at which it stands. -/
inductive Brace where
  | opening (offset : Nat)
  | closing (offset : Nat)

namespace Brace

/-- The byte at which a brace stands. -/
def offset : Brace → Nat
  | .opening n => n
  | .closing n => n

/-- The unescaped braces of a text that begins at a byte. Escapes are read from left to right, and
any character may be escaped. -/
def ofChars : Nat → List Char → List Brace
  | _, [] => []
  | n, '\\' :: c :: rest => ofChars (n + (1 + c.utf8Size)) rest
  | n, '{' :: rest => .opening n :: ofChars (n + 1) rest
  | n, '}' :: rest => .closing n :: ofChars (n + 1) rest
  | n, c :: rest => ofChars (n + c.utf8Size) rest

/-- Every opening brace has a closing one behind it, and the other way round. -/
inductive Balanced : List Brace → Prop
  | nil : Balanced []
  | pair {i j : Nat} {inside rest : List Brace} : Balanced inside → Balanced rest →
      Balanced (.opening i :: (inside ++ .closing j :: rest))

/-- The braces at two bytes are partners. -/
def Partners (bs : List Brace) (i j : Nat) : Prop :=
  ∃ before inside after, bs = before ++ .opening i :: (inside ++ .closing j :: after) ∧
    Balanced inside

/-- A brace has a partner. -/
def IsMatched (bs : List Brace) : Brace → Prop
  | .opening i => ∃ j, Partners bs i j
  | .closing j => ∃ i, Partners bs i j

/-- A brace has no partner, and every brace to the left of it has one. -/
structure IsFirstUnmatched (bs : List Brace) (b : Brace) : Prop where
  mem : b ∈ bs
  not_isMatched : ¬ IsMatched bs b
  isMatched_of_lt : ∀ b' ∈ bs, b'.offset < b.offset → IsMatched bs b'

/-! ## Balanced braces -/

theorem Balanced.append {bs bs' : List Brace} (h : Balanced bs) (h' : Balanced bs') :
    Balanced (bs ++ bs') := by
  induction h with
  | nil => exact h'
  | pair hinside _ _ ih =>
    rw [List.cons_append, List.append_assoc, List.cons_append]
    exact .pair hinside ih

theorem Partners.within {bs : List Brace} {i j : Nat} (h : Partners bs i j)
    (before after : List Brace) : Partners (before ++ (bs ++ after)) i j := by
  obtain ⟨before', inside, after', rfl, hinside⟩ := h
  refine ⟨before ++ before', inside, after' ++ after, ?_, hinside⟩
  simp only [List.append_assoc, List.cons_append]

theorem IsMatched.within {bs : List Brace} {b : Brace} (h : IsMatched bs b)
    (before after : List Brace) : IsMatched (before ++ (bs ++ after)) b := by
  cases b with
  | opening i =>
    obtain ⟨j, hj⟩ := h
    exact ⟨j, hj.within before after⟩
  | closing j =>
    obtain ⟨i, hi⟩ := h
    exact ⟨i, hi.within before after⟩

theorem Balanced.isMatched {bs : List Brace} (h : Balanced bs) : ∀ b ∈ bs, IsMatched bs b := by
  induction h with
  | nil => exact fun _ ↦ nofun
  | @pair i j inside rest hinside _ ihinside ihrest =>
    have hpair : Partners (.opening i :: (inside ++ .closing j :: rest)) i j :=
      ⟨[], inside, rest, rfl, hinside⟩
    intro b hb
    rw [List.mem_cons, List.mem_append, List.mem_cons] at hb
    rcases hb with rfl | hb | rfl | hb
    · exact ⟨j, hpair⟩
    · exact (ihinside b hb).within [.opening i] (.closing j :: rest)
    · exact ⟨i, hpair⟩
    · have hrest := (ihrest b hb).within (.opening i :: (inside ++ [.closing j])) []
      simpa using hrest

/-- How many more braces open than close. -/
def excess : List Brace → Int
  | [] => 0
  | .opening _ :: bs => excess bs + 1
  | .closing _ :: bs => excess bs - 1

theorem excess_append (bs bs' : List Brace) : excess (bs ++ bs') = excess bs + excess bs' := by
  induction bs with
  | nil => exact (Int.zero_add _).symm
  | cons b bs ih =>
    cases b <;> rw [List.cons_append, excess, excess, ih] <;> omega

theorem Balanced.excess_eq_zero {bs : List Brace} (h : Balanced bs) : excess bs = 0 := by
  induction h with
  | nil => rfl
  | pair _ _ ihinside ihrest =>
    rw [excess, excess_append, excess, ihinside, ihrest]
    rfl

/-- No tail of balanced braces opens more than it closes. -/
theorem Balanced.excess_tail {bs : List Brace} (h : Balanced bs) {before tail : List Brace}
    (hsplit : bs = before ++ tail) : excess tail ≤ 0 := by
  induction h generalizing before tail with
  | nil =>
    obtain ⟨_, rfl⟩ := List.append_eq_nil_iff.mp hsplit.symm
    exact Int.le_refl 0
  | @pair i j inside rest hinside hrest ihinside ihrest =>
    cases before with
    | nil =>
      have hall : tail = _ := hsplit.symm
      rw [hall]
      exact Int.le_of_eq (Balanced.pair hinside hrest).excess_eq_zero
    | cons b before =>
      rw [List.cons_append] at hsplit
      rcases List.append_eq_append_iff.mp (List.cons.inj hsplit).2 with
        ⟨gap, rfl, hgap⟩ | ⟨gap, hgap, rfl⟩
      · cases gap with
        | nil =>
          have htail : tail = .closing j :: rest := hgap.symm
          rw [htail, excess, hrest.excess_eq_zero]
          decide
        | cons b' gap => exact ihrest (List.cons.inj hgap).2
      · have hinner := ihinside hgap
        rw [excess_append, excess, hrest.excess_eq_zero]
        omega

/-! ## The scan on braces -/

/-- Whether a closing brace follows that no brace here opens, when so many more are open. -/
def closes : Nat → List Brace → Bool
  | _, [] => false
  | depth, .opening _ :: bs => closes (depth + 1) bs
  | 0, .closing _ :: _ => true
  | depth + 1, .closing _ :: bs => closes depth bs

theorem Balanced.closes_append {bs : List Brace} (h : Balanced bs) (bs' : List Brace)
    (depth : Nat) : closes depth (bs ++ bs') = closes depth bs' := by
  induction h generalizing depth bs' with
  | nil => rfl
  | pair _ _ ihinside ihrest =>
    rw [List.cons_append, List.append_assoc, List.cons_append, closes, ihinside, closes, ihrest]

/-- Whoever is closed with another brace open is closed without it. -/
theorem closes_of_succ {bs : List Brace} {depth : Nat} (h : closes (depth + 1) bs = true) :
    closes depth bs = true := by
  induction bs generalizing depth with
  | nil => exact absurd h nofun
  | cons b bs ih =>
    cases b with
    | opening i => exact ih h
    | closing j =>
      cases depth with
      | zero => rfl
      | succ depth => exact ih h

theorem closesBackslash_eq {depth : Nat} {cs : List Char} (n : Nat) :
    Parser.closesBackslash depth cs = closes depth (ofChars n cs) := by
  fun_induction ofChars n cs generalizing depth with
  | case1 => cases depth <;> rfl
  | case2 n c rest ih => rw [Parser.closesBackslash, ih]
  | case3 n rest ih => rw [Parser.closesBackslash_open, closes, ih]
  | case4 n rest ih =>
    cases depth with
    | zero => rfl
    | succ depth => rw [Parser.closesBackslash_close, closes, ih]
  | case5 n c rest hback hopen hclose ih =>
    rw [← ih]
    cases depth <;> cases rest <;> simp_all [Parser.closesBackslash]

/-! ## Places of braces -/

theorem le_offset_of_mem {n : Nat} {cs : List Char} {b : Brace} (h : b ∈ ofChars n cs) :
    n ≤ b.offset := by
  fun_induction ofChars n cs with
  | case1 => exact absurd h List.not_mem_nil
  | case2 n c rest ih => exact Nat.le_trans (by omega) (ih h)
  | case3 n rest ih =>
    rcases List.mem_cons.mp h with rfl | h
    · exact Nat.le_refl n
    · exact Nat.le_of_succ_le (ih h)
  | case4 n rest ih =>
    rcases List.mem_cons.mp h with rfl | h
    · exact Nat.le_refl n
    · exact Nat.le_of_succ_le (ih h)
  | case5 n c rest _ _ _ ih => exact Nat.le_trans (by omega) (ih h)

/-- Braces are listed from left to right. -/
theorem pairwise_ofChars (n : Nat) (cs : List Char) :
    (ofChars n cs).Pairwise fun b b' ↦ b.offset < b'.offset := by
  fun_induction ofChars n cs with
  | case1 => exact .nil
  | case2 n c rest ih => exact ih
  | case3 n rest ih => exact .cons (fun b hb ↦ le_offset_of_mem hb) ih
  | case4 n rest ih => exact .cons (fun b hb ↦ le_offset_of_mem hb) ih
  | case5 n c rest _ _ _ ih => exact ih

/-- Where braces are listed from left to right, each of them is listed once. -/
theorem notMem_of_pairwise {before after : List Brace} {b : Brace}
    (h : (before ++ b :: after).Pairwise fun b b' ↦ b.offset < b'.offset) :
    b ∉ before ∧ b ∉ after := by
  rw [List.pairwise_append, List.pairwise_cons] at h
  obtain ⟨_, ⟨hafter, _⟩, hbefore⟩ := h
  refine ⟨fun hb ↦ ?_, fun hb ↦ Nat.lt_irrefl _ (hafter b hb)⟩
  exact Nat.lt_irrefl _ (hbefore b hb b List.mem_cons_self)

/-- Behind balanced braces, one without a partner is the first of them. -/
theorem isFirstUnmatched_of_balanced {bs before after : List Brace} {b : Brace}
    (hbs : bs = before ++ b :: after) (h : bs.Pairwise fun b b' ↦ b.offset < b'.offset)
    (hbefore : Balanced before) (hb : ¬ IsMatched bs b) : IsFirstUnmatched bs b := by
  subst hbs
  refine ⟨List.mem_append_right before List.mem_cons_self, hb, fun b' hmem hlt ↦ ?_⟩
  rw [List.pairwise_append, List.pairwise_cons] at h
  obtain ⟨_, ⟨hafter, _⟩, _⟩ := h
  rw [List.mem_append, List.mem_cons] at hmem
  rcases hmem with hmem | rfl | hmem
  · exact (hbefore.isMatched b' hmem).within [] (b :: after)
  · exact absurd hlt (Nat.lt_irrefl _)
  · exact absurd (Nat.lt_trans hlt (hafter b' hmem)) (Nat.lt_irrefl _)

/-- An opening brace behind balanced ones has no partner if the scan finds none. -/
theorem isFirstUnmatched_opening {bs before after : List Brace} {i : Nat}
    (hbs : bs = before ++ .opening i :: after)
    (h : bs.Pairwise fun b b' ↦ b.offset < b'.offset) (hbefore : Balanced before)
    (hafter : closes 0 after = false) : IsFirstUnmatched bs (.opening i) := by
  refine isFirstUnmatched_of_balanced hbs h hbefore fun hmatched ↦ ?_
  obtain ⟨j, before', inside, after', hsplit, hinside⟩ := hmatched
  rw [hsplit] at h hbs
  obtain ⟨hbefore', hafter'⟩ := notMem_of_pairwise h
  obtain ⟨_, _, rfl⟩ := (List.append_cons_inj_of_notMem hbefore' hafter').mp hbs
  rw [hinside.closes_append] at hafter
  exact absurd hafter nofun

/-- A closing brace behind balanced ones has no partner. -/
theorem isFirstUnmatched_closing {bs before after : List Brace} {j : Nat}
    (hbs : bs = before ++ .closing j :: after)
    (h : bs.Pairwise fun b b' ↦ b.offset < b'.offset) (hbefore : Balanced before) :
    IsFirstUnmatched bs (.closing j) := by
  refine isFirstUnmatched_of_balanced hbs h hbefore fun hmatched ↦ ?_
  obtain ⟨i, before', inside, after', hsplit, hinside⟩ := hmatched
  have hassoc : bs = (before' ++ .opening i :: inside) ++ .closing j :: after' := by
    rw [hsplit, List.append_assoc, List.cons_append]
  rw [hassoc] at h hbs
  obtain ⟨hnot, hnot'⟩ := notMem_of_pairwise h
  obtain ⟨hbefore', _, _⟩ := (List.append_cons_inj_of_notMem hnot hnot').mp hbs
  -- The partner would open a tail of balanced braces that nothing closes.
  have htail := hbefore.excess_tail hbefore'.symm
  rw [excess, hinside.excess_eq_zero] at htail
  exact absurd htail (by decide)

end Brace

/-! ## Braces that reading passes over -/

/-- The unescaped braces from a place on. -/
def Cursor.braces (k : Cursor) : List Brace := Brace.ofChars k.offset k.rest

/-- The unescaped braces between two places match. -/
def Cursor.BalancedTo (k next : Cursor) : Prop :=
  ∃ inside, Brace.Balanced inside ∧ k.braces = inside ++ next.braces

theorem Cursor.BalancedTo.of_eq {k next : Cursor} (h : k.braces = next.braces) :
    k.BalancedTo next := ⟨[], .nil, h⟩

theorem Cursor.BalancedTo.trans {k mid next : Cursor} (h : k.BalancedTo mid)
    (h' : mid.BalancedTo next) : k.BalancedTo next := by
  obtain ⟨inside, hinside, heq⟩ := h
  obtain ⟨inside', hinside', heq'⟩ := h'
  refine ⟨inside ++ inside', hinside.append hinside', ?_⟩
  rw [heq, heq', List.append_assoc]

namespace Parser

open Brace

theorem ofChars_append {text rest : List Char} {n : Nat} (h : IsPlain text) :
    ofChars n (text ++ rest) = ofChars (n + byteWidth text) rest := by
  induction text generalizing n with
  | nil => rfl
  | cons c text ih =>
    obtain ⟨hopen, hclose, hback⟩ := h c List.mem_cons_self
    have hrest := ih (n := n + c.utf8Size) fun d hd ↦ h d (List.mem_cons_of_mem c hd)
    rw [List.cons_append, byteWidth_cons, ← Nat.add_assoc, ← hrest]
    simp [ofChars, hback]

theorem braces_of_passes {k next : Cursor} {text : List Char} (h : k.Passes text next)
    (htext : IsPlain text) : k.braces = next.braces := by
  rw [Cursor.braces, h.rest, ofChars_append htext, ← h.offset]
  rfl

theorem braces_opening {k : Cursor} {rest : List Char} (h : k.rest = '{' :: rest) :
    k.braces = .opening k.offset :: Cursor.braces ⟨k.offset + 1, rest⟩ := by
  rw [Cursor.braces, h, ofChars]
  rfl

theorem braces_closing {k : Cursor} {rest : List Char} (h : k.rest = '}' :: rest) :
    k.braces = .closing k.offset :: Cursor.braces ⟨k.offset + 1, rest⟩ := by
  rw [Cursor.braces, h, ofChars]
  rfl

theorem braces_colon {k : Cursor} {rest : List Char} (h : k.rest = ':' :: rest) :
    k.braces = Cursor.braces ⟨k.offset + 1, rest⟩ := by
  refine braces_of_passes (Cursor.Passes.mark h rfl) ?_
  exact List.forall_mem_singleton.mpr (by decide)

theorem braces_spelling {k next : Cursor} {unit : List Char} {c : Char}
    (hunit : Spelling .backslash unit c) (h : k.Passes unit next) : k.braces = next.braces := by
  cases hunit with
  | plain hbrace hback =>
    obtain ⟨hopen, hclose⟩ := isBrace_eq_false_iff.mp hbrace
    exact braces_of_passes h (List.forall_mem_singleton.mpr ⟨hopen, hclose, hback rfl⟩)
  | @escaped e c _ =>
    rw [Cursor.braces, h.rest, Cursor.braces, h.offset]
    simp [ofChars, Char.utf8Size]

theorem closes_braces {rest : List Char} (n : Nat) :
    Parser.closes .backslash rest = Brace.closes 0 (Cursor.braces ⟨n, rest⟩) :=
  closesBackslash_eq n

variable {closes' : List Char → Bool}

theorem ReadsHead.braces {k mid : Cursor} {selectors : List Selector} {width : Option Int32}
    (h : ReadsHead .backslash closes' k selectors width mid) :
    k.braces = .opening k.offset :: mid.braces := by
  obtain ⟨text, htext, hpass⟩ := h.passes_plain
  have hopen : k.rest = '{' :: (text ++ mid.rest) := hpass.rest
  rw [braces_opening hopen, braces_of_passes (hpass.tail hopen rfl) htext]

theorem balancedTo_bare {k mid : Cursor} {rest : List Char} {selectors : List Selector}
    {width : Option Int32} (hhead : ReadsHead .backslash closes' k selectors width mid)
    (hclose : mid.rest = '}' :: rest) : k.BalancedTo ⟨mid.offset + 1, rest⟩ := by
  refine ⟨[.opening k.offset, .closing mid.offset], .pair .nil .nil, ?_⟩
  rw [hhead.braces, braces_closing hclose]
  rfl

theorem balancedTo_formatted {k mid stop : Cursor} {body rest : List Char}
    {selectors : List Selector} {width : Option Int32}
    (hhead : ReadsHead .backslash closes' k selectors width mid) (hcolon : mid.rest = ':' :: body)
    (hbody : Cursor.BalancedTo ⟨mid.offset + 1, body⟩ stop) (hclose : stop.rest = '}' :: rest) :
    k.BalancedTo ⟨stop.offset + 1, rest⟩ := by
  obtain ⟨inside, hinside, heq⟩ := hbody
  refine ⟨.opening k.offset :: (inside ++ [.closing stop.offset]), .pair hinside .nil, ?_⟩
  rw [hhead.braces, braces_colon hcolon, heq, braces_closing hclose, List.cons_append,
    List.append_assoc]
  rfl

/-- Whatever a derivation passes over has matching braces. -/
theorem Reads.balancedTo {scope : Scope} {k next : Cursor} {ps : List Piece}
    (h : Reads .backslash closes' scope k ps next) : k.BalancedTo next := by
  induction h with
  | finish _ => exact .of_eq rfl
  | close _ => exact .of_eq rfl
  | char hunit hpass _ ih => exact (Cursor.BalancedTo.of_eq (braces_spelling hunit hpass)).trans ih
  | bare hhead hclose _ ih => exact (balancedTo_bare hhead hclose).trans ih
  | formatted hhead hcolon _ hclose _ ihq ih =>
    exact (balancedTo_formatted hhead hcolon ihq hclose).trans ih

/-! ## Braces in front of an error -/

/-- An error about a missing brace is about a brace that only balanced ones stand in front of, and
an opening one is not closed. -/
structure BlamesBrace (k : Cursor) (e : SyntaxError) : Prop where
  opening : e.kind = .unclosedPlaceholder → ∃ before after, Balanced before ∧
    k.braces = before ++ .opening e.offset :: after ∧ Brace.closes 0 after = false
  closing : e.kind = .unexpectedClose → ∃ before after, Balanced before ∧
    k.braces = before ++ .closing e.offset :: after

theorem BlamesBrace.of_kind {k : Cursor} {e : SyntaxError} (hopen : e.kind ≠ .unclosedPlaceholder)
    (hclose : e.kind ≠ .unexpectedClose) : BlamesBrace k e :=
  ⟨fun h ↦ absurd h hopen, fun h ↦ absurd h hclose⟩

theorem BlamesBrace.behind {k next : Cursor} {e : SyntaxError} (h : BlamesBrace next e)
    (hk : k.BalancedTo next) : BlamesBrace k e := by
  obtain ⟨inside, hinside, hbraces⟩ := hk
  refine ⟨fun hkind ↦ ?_, fun hkind ↦ ?_⟩
  · obtain ⟨before, after, hbefore, heq, hafter⟩ := h.opening hkind
    refine ⟨_, after, hinside.append hbefore, ?_, hafter⟩
    rw [hbraces, heq, List.append_assoc]
  · obtain ⟨before, after, hbefore, heq⟩ := h.closing hkind
    refine ⟨_, after, hinside.append hbefore, ?_⟩
    rw [hbraces, heq, List.append_assoc]

theorem RefusesPath.kind_ne_unexpectedClose {opening : Nat} {leading : Bool} {k : Cursor}
    {e : SyntaxError} (h : RefusesPath opening leading k e) : e.kind ≠ .unexpectedClose := by
  induction h with
  | dot _ _ _ ih => exact ih
  | _ => exact nofun

theorem RefusesWidth.kind_ne {k : Cursor} {e : SyntaxError} (h : RefusesWidth k e) :
    e.kind ≠ .unclosedPlaceholder ∧ e.kind ≠ .unexpectedClose := by
  cases h <;> exact ⟨nofun, nofun⟩

/-- In a specifier every closing brace is expected. -/
theorem Refuses.kind_ne_unexpectedClose {mode : EscapeMode} {closes : List Char → Bool}
    {k : Cursor} {e : SyntaxError} (h : Refuses mode closes .format k e) :
    e.kind ≠ .unexpectedClose := by
  generalize hscope : Scope.format = scope at h
  induction h with
  | close _ => exact Scope.noConfusion hscope
  | path _ _ hpath => exact hpath.kind_ne_unexpectedClose
  | width _ _ _ hwidth => exact hwidth.kind_ne.2
  | specifier _ _ _ ih => exact ih rfl
  | char _ _ _ ih => exact ih hscope
  | bare _ _ _ ih => exact ih hscope
  | formatted _ _ _ _ _ ih => exact ih hscope
  | _ => exact nofun

/-- Where the scan has found a closing brace, no path lacks one. -/
theorem RefusesPath.kind_ne_unclosed {opening : Nat} {leading : Bool} {k : Cursor}
    {e : SyntaxError} (h : RefusesPath opening leading k e)
    (hcloses : closesBackslash 0 k.rest = true) : e.kind ≠ .unclosedPlaceholder := by
  induction h with
  | finish hk =>
    rw [hk] at hcloses
    exact absurd hcloses nofun
  | dot hs hrest _ ih =>
    rw [hs.passes.rest, closesBackslash_append hs.isPlain, hrest,
      closesBackslash_cons (by decide) (by decide) (by decide)] at hcloses
    exact ih hcloses
  | _ => exact nofun

theorem ReadsHead.closes_rest {k mid : Cursor} {selectors : List Selector} {width : Option Int32}
    (h : ReadsHead .backslash (closes .backslash) k selectors width mid) :
    closesBackslash 0 mid.rest = true := by
  obtain ⟨rest, hopen, hrest⟩ := closesBackslash_head h
  obtain ⟨hfront, hcloses, _, _⟩ := h
  obtain rfl := (List.cons.inj ((front_eq_opening_iff.mp hfront).1.symm.trans hopen)).2
  exact (hrest 0).symm.trans hcloses

/-- Behind the opening brace of a placeholder with a closing one, no specifier lacks one. -/
theorem BlamesBrace.kind_ne_unclosed {k : Cursor} {e : SyntaxError} (h : BlamesBrace k e)
    (hcloses : closesBackslash 0 k.rest = true) : e.kind ≠ .unclosedPlaceholder := by
  intro hkind
  obtain ⟨before, after, hbefore, heq, hafter⟩ := h.opening hkind
  rw [closesBackslash_eq k.offset] at hcloses
  have hscan : Brace.closes 0 k.braces = true := hcloses
  rw [heq, hbefore.closes_append, Brace.closes] at hscan
  rw [closes_of_succ hscan] at hafter
  exact Bool.noConfusion hafter

/-- Every error about a missing brace is about a brace behind balanced ones. -/
theorem Refuses.blamesBrace {scope : Scope} {k : Cursor} {e : SyntaxError}
    (h : Refuses .backslash (closes .backslash) scope k e) : BlamesBrace k e := by
  induction h with
  | badEscape _ => exact .of_kind nofun nofun
  | @close k hk =>
    obtain ⟨rest, hrest, _⟩ := front_eq_closing_iff.mp hk
    exact ⟨nofun, fun _ ↦ ⟨[], _, .nil, braces_closing hrest⟩⟩
  | @ahead scope k rest hfront hcloses =>
    have hopen := (front_eq_opening_iff.mp hfront).1
    exact ⟨fun _ ↦ ⟨[], _, .nil, braces_opening hopen, (closes_braces _).symm.trans hcloses⟩, nofun⟩
  | path _ hcloses hpath =>
    exact .of_kind (hpath.kind_ne_unclosed hcloses) hpath.kind_ne_unexpectedClose
  | width _ _ _ hwidth => exact .of_kind hwidth.kind_ne.1 hwidth.kind_ne.2
  | stray _ _ _ _ => exact .of_kind nofun nofun
  | bareEnd hhead hrest =>
    have hcloses := hhead.closes_rest
    rw [hrest] at hcloses
    exact absurd hcloses nofun
  | specifier hhead hcolon hbody ih =>
    have hcloses := hhead.closes_rest
    rw [hcolon, closesBackslash_cons (by decide) (by decide) (by decide)] at hcloses
    exact .of_kind (ih.kind_ne_unclosed hcloses) hbody.kind_ne_unexpectedClose
  | specifierEnd hhead hcolon hqs hstop =>
    have hcloses := hhead.closes_rest
    rw [hcolon, closesBackslash_cons (by decide) (by decide) (by decide),
      closesBackslash_reads hqs 0, hstop] at hcloses
    exact absurd hcloses nofun
  | char hunit hpass _ ih => exact ih.behind (.of_eq (braces_spelling hunit hpass))
  | bare hhead hclose _ ih => exact ih.behind (balancedTo_bare hhead hclose)
  | formatted hhead hcolon hqs hclose _ ih =>
    exact ih.behind (balancedTo_formatted hhead hcolon hqs.balancedTo hclose)

end Parser

/-- **Braces are brackets.** Under backslash escapes the unescaped braces of a template match. An
error about a placeholder that is never closed is about the first brace of the text that has no
partner, and so is one about a closing brace that is not expected. -/
theorem Template.braces_of_parse (source : String) :
    match Template.parse .backslash source with
    | .ok _ => Brace.Balanced (Brace.ofChars 0 source.toList)
    | .error e =>
      (e.kind = .unclosedPlaceholder →
          Brace.IsFirstUnmatched (Brace.ofChars 0 source.toList) (.opening e.offset)) ∧
        (e.kind = .unexpectedClose →
          Brace.IsFirstUnmatched (Brace.ofChars 0 source.toList) (.closing e.offset)) := by
  have hsorted := Brace.pairwise_ofChars 0 source.toList
  split
  · rename_i t hparse
    obtain ⟨ps, next, hps, _⟩ := Template.parse_eq_ok_iff.mp hparse
    obtain ⟨inside, hinside, hbraces⟩ := hps.balancedTo
    have hnil : next.braces = [] := by
      rw [Cursor.braces, hps.rest_eq_nil, Brace.ofChars]
    rw [hnil, List.append_nil] at hbraces
    have hbs : Brace.ofChars 0 source.toList = inside := hbraces
    rwa [hbs]
  · rename_i e hparse
    have hblames := (Template.refuses_of_parse hparse).blamesBrace
    refine ⟨fun hkind ↦ ?_, fun hkind ↦ ?_⟩
    · obtain ⟨before, after, hbefore, heq, hafter⟩ := hblames.opening hkind
      exact Brace.isFirstUnmatched_opening heq hsorted hbefore hafter
    · obtain ⟨before, after, hbefore, heq⟩ := hblames.closing hkind
      exact Brace.isFirstUnmatched_closing heq hsorted hbefore

/-- The brace at the front is escaped, and the first of the others is never closed. -/
example : Template.parse .backslash "\\\x7b \x7bb:\x7bc\x7d" =
      .error ⟨.unclosedPlaceholder, ⟨3, 4⟩⟩ ∧
    Brace.ofChars 0 "\\\x7b \x7bb:\x7bc\x7d".toList = [.opening 3, .opening 6, .closing 8] :=
  ⟨rfl, rfl⟩

end TextTemplate
