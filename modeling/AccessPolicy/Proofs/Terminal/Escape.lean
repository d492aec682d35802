import AccessPolicy.Terminal.Screen
import Mathlib.Data.List.TakeWhile
import Mathlib.Tactic.MkIffOfInductiveProp

/-!
# Escaped texts bring no tags

A text that comes from elsewhere is escaped before it is put among tags.  Whatever it says, the
marked-up text has the tags that were written around it and no others, so that it can be shown
if these match.

**Tags.**  Whether some pieces can be shown depends on the tags among them only
(`isSome_seen?`).

**Rest.**  Tags are found by looking ahead to a closing bracket, so an escaped text is read
together with what stands behind it.  If that does not close a bracket, no bracket of the escaped
text begins a tag, and what stands behind is read as if behind some backslashes
(`exists_tagsOf_escape`).

**Inside a tag.**  A bracket that would begin a tag is read as text up to the closing bracket,
with other rules than those for text outside.  The induction on the escaped text therefore says
how it is read in both places (`tagsOf_escapeFrom`).
-/

namespace AccessPolicy
namespace Markup

/-- What is written in the tags among some pieces. -/
def tagsOf (pieces : List Piece) : List (List Char) :=
  pieces.filterMap fun p =>
    match p with
    | .text _ => none
    | .tag cs => some cs

section Pieces

@[simp] theorem tagsOf_text_cons
    (cs : List Char)
    (pieces : List Piece) :
    tagsOf (.text cs :: pieces) = tagsOf pieces := by
  rfl

@[simp] theorem tagsOf_tag_cons
    (cs : List Char)
    (pieces : List Piece) :
    tagsOf (.tag cs :: pieces) = cs :: tagsOf pieces := by
  rfl

@[simp] theorem tagsOf_joinFront
    (cs : List Char)
    (pieces : List Piece) :
    tagsOf (Piece.joinFront cs pieces) = tagsOf pieces := by
  cases pieces with
  | nil =>
      rfl
  | cons p pieces =>
      cases p <;> rfl

/-- Pieces can be shown iff the tags among them match. -/
theorem isSome_seen?
    (signs : Pictogram.Signs)
    (pieces : List Piece)
    (before : List OpenTag) :
    (seen? signs before pieces).isSome = ((tagsOf pieces).foldlM afterTag? before).isSome := by
  induction pieces generalizing before with
  | nil =>
      rfl
  | cons p pieces ih =>
      cases p with
      | text cs =>
          rw [seen?, Option.isSome_map, ih, tagsOf_text_cons]
      | tag cs =>
          rw [seen?, tagsOf_tag_cons, List.foldlM_cons]
          cases afterTag? before cs with
          | none =>
              rfl
          | some after =>
              exact ih after

end Pieces

section Reading

theorem slashes_succ
    (n : Nat) :
    slashes (n + 1) = '\\' :: slashes n := by
  rfl

theorem piecesFrom_slashes
    (pending n : Nat)
    (cs : List Char) :
    piecesFrom pending (slashes n ++ cs) = piecesFrom (pending + n) cs := by
  induction n generalizing pending with
  | zero =>
      rfl
  | succ n ih =>
      rw [slashes_succ, List.cons_append, piecesFrom, ih]
      congr 1
      omega

/-- A character that is neither a backslash nor an opening bracket is text. -/
theorem tagsOf_piecesFrom_cons
    {c : Char}
    (hslash : c ≠ '\\')
    (hbracket : c ≠ '[')
    (pending : Nat)
    (cs : List Char) :
    tagsOf (piecesFrom pending (c :: cs)) = tagsOf (piecesFrom 0 cs) := by
  rw [piecesFrom, tagsOf_joinFront]
  · exact hslash
  · exact hbracket

/-- A bracket that begins no tag is text. -/
theorem tagsOf_piecesFrom_bracket
    {cs : List Char}
    (htag : isTag cs = false)
    (pending : Nat) :
    tagsOf (piecesFrom pending ('[' :: cs)) = tagsOf (piecesFrom 0 cs) := by
  rw [piecesFrom, if_neg (by simp [htag]), tagsOf_joinFront]

/-- What is read through a tag that is seen begins with text. -/
theorem tagsOf_putFirst_piecesThroughTag
    (c : Char)
    (cs : List Char) :
    tagsOf (Piece.putFirst c (piecesThroughTag true cs)) = tagsOf (piecesThroughTag true cs) := by
  have hfirst :
      piecesThroughTag true cs = [] ∨ ∃ t more, piecesThroughTag true cs = .text t :: more := by
    induction cs with
    | nil =>
        exact Or.inl rfl
    | cons d cs ih =>
        rw [piecesThroughTag]
        split
        · exact Or.inr ⟨_, _, rfl⟩
        · rcases ih with hnone | ⟨t, more, hsome⟩
          · rw [hnone]
            exact Or.inl rfl
          · rw [hsome]
            exact Or.inr ⟨_, _, rfl⟩
  rcases hfirst with hnone | ⟨t, more, hsome⟩
  · rw [hnone]
    rfl
  · rw [hsome]
    rfl

/-- A bracket that begins a tag is text behind an odd number of backslashes. -/
theorem tagsOf_piecesFrom_tag
    {cs : List Char}
    (htag : isTag cs = true)
    (pending : Nat) :
    tagsOf (piecesFrom pending ('[' :: cs)) =
      tagsOf (piecesThroughTag (pending % 2 = 1) cs) := by
  rw [piecesFrom, if_pos htag]
  by_cases hodd : pending % 2 = 1
  · simp only [hodd, decide_true, if_true, tagsOf_text_cons]
    exact tagsOf_putFirst_piecesThroughTag '[' cs
  · simp only [hodd, decide_false, if_false, tagsOf_text_cons]

theorem tagsOf_piecesThroughTag_cons
    {c : Char}
    (hc : c ≠ ']')
    (cs : List Char) :
    tagsOf (piecesThroughTag true (c :: cs)) = tagsOf (piecesThroughTag true cs) := by
  rw [piecesThroughTag, if_neg hc]
  exact tagsOf_putFirst_piecesThroughTag c cs

theorem tagsOf_piecesThroughTag_slashes
    (n : Nat)
    (cs : List Char) :
    tagsOf (piecesThroughTag true (slashes n ++ cs)) = tagsOf (piecesThroughTag true cs) := by
  induction n with
  | zero =>
      rfl
  | succ n ih =>
      rw [slashes_succ, List.cons_append, tagsOf_piecesThroughTag_cons (by decide), ih]

/-- Whether a text has no backslashes and no opening brackets. -/
def IsPlain (text : List Char) : Prop :=
  ∀ c ∈ text, c ≠ '\\' ∧ c ≠ '['

-- All characters could be tried, since they are finitely many.  Only those of the text are.
instance (text : List Char) : Decidable (IsPlain text) :=
  List.decidableBAll _ text

/-- A plain text has no tags. -/
theorem tagsOf_text_append
    {text : List Char}
    (htext : IsPlain text)
    (cs : List Char) :
    tagsOf (piecesFrom 0 (text ++ cs)) = tagsOf (piecesFrom 0 cs) := by
  induction text with
  | nil =>
      rfl
  | cons c text ih =>
      unfold IsPlain at htext
      obtain ⟨⟨hslash, hbracket⟩, hrest⟩ := List.forall_mem_cons.mp htext
      rw [List.cons_append, tagsOf_piecesFrom_cons hslash hbracket, ih hrest]

/-- The name of a tag begins as such and has no brackets. -/
@[mk_iff]
structure IsTagName (name : List Char) : Prop where
  begins : name.head?.any beginsName = true
  brackets : ∀ c ∈ name, c ≠ '[' ∧ c ≠ ']'

instance (name : List Char) : Decidable (IsTagName name) :=
  have : Decidable (∀ c ∈ name, c ≠ '[' ∧ c ≠ ']') := List.decidableBAll _ name
  decidable_of_iff' _ (isTagName_iff name)

theorem isTag_append
    {name : List Char}
    (hname : IsTagName name)
    (cs : List Char) :
    isTag (name ++ ']' :: cs) = true := by
  have hcloses : ∀ text : List Char, (∀ c ∈ text, c ≠ '[' ∧ c ≠ ']') →
      closes (text ++ ']' :: cs) = true := by
    intro text htext
    induction text with
    | nil =>
        rfl
    | cons c text ih =>
        obtain ⟨⟨hbracket, _⟩, hrest⟩ := List.forall_mem_cons.mp htext
        rw [List.cons_append, closes, ih hrest]
        simp [hbracket]
  obtain ⟨hbegins, hbrackets⟩ := hname
  cases name with
  | nil =>
      cases hbegins
  | cons c name =>
      have hrest := hcloses name fun d hd => hbrackets d (List.mem_cons_of_mem _ hd)
      exact Bool.and_eq_true_iff.mpr ⟨hbegins, hrest⟩

theorem piecesThroughTag_append
    {name : List Char}
    (hbrackets : ∀ c ∈ name, c ≠ '[' ∧ c ≠ ']')
    (cs : List Char) :
    piecesThroughTag false (name ++ ']' :: cs) = .tag name :: piecesFrom 0 cs := by
  induction name with
  | nil =>
      rw [List.nil_append, piecesThroughTag, if_pos rfl]
      rfl
  | cons c name ih =>
      obtain ⟨⟨_, hend⟩, hrest⟩ := List.forall_mem_cons.mp hbrackets
      rw [List.cons_append, piecesThroughTag, if_neg hend, ih hrest]
      rfl

/-- A tag is read before what is behind it. -/
theorem tagsOf_tag_append
    {name : List Char}
    (hname : IsTagName name)
    (cs : List Char) :
    tagsOf (piecesFrom 0 ('[' :: (name ++ ']' :: cs))) = name :: tagsOf (piecesFrom 0 cs) := by
  rw [tagsOf_piecesFrom_tag (isTag_append hname cs)]
  exact congrArg tagsOf (piecesThroughTag_append hname.brackets cs)

/-- A tag at the end of a text is a tag or, behind a backslash, text. -/
theorem tagsOf_tag
    {name : List Char}
    (hname : IsTagName name)
    (pending : Nat) :
    tagsOf (piecesFrom pending ('[' :: (name ++ [']']))) = [name] ∨
      tagsOf (piecesFrom pending ('[' :: (name ++ [']']))) = [] := by
  have hseen : tagsOf (piecesThroughTag true (name ++ [']'])) = [] := by
    have hbrackets := hname.brackets
    clear hname
    induction name with
    | nil =>
        rfl
    | cons c name ih =>
        obtain ⟨⟨_, hend⟩, hrest⟩ := List.forall_mem_cons.mp hbrackets
        rw [List.cons_append, tagsOf_piecesThroughTag_cons hend, ih hrest]
  rw [tagsOf_piecesFrom_tag (isTag_append hname [])]
  cases decide (pending % 2 = 1) with
  | true =>
      right
      exact hseen
  | false =>
      left
      rw [piecesThroughTag_append hname.brackets]
      rfl

end Reading

section Escaping

/-- A character of an escaped text that is neither a backslash nor an opening bracket. -/
theorem escapeFrom_cons
    {c : Char}
    (hslash : c ≠ '\\')
    (hbracket : c ≠ '[')
    (pending : Nat)
    (cs : List Char) :
    escapeFrom pending (c :: cs) = slashes pending ++ c :: escapeFrom 0 cs := by
  rw [escapeFrom]
  · exact hslash
  · exact hbracket

theorem closes_slashes
    (n : Nat)
    (cs : List Char) :
    closes (slashes n ++ cs) = closes cs := by
  induction n with
  | zero =>
      rfl
  | succ n ih =>
      rw [slashes_succ, List.cons_append, closes, ih]
      rfl

/-- A text that begins with a backslash is no tag. -/
theorem isTag_escapeFrom_succ
    (pending : Nat)
    (cs behind : List Char) :
    isTag (escapeFrom (pending + 1) cs ++ behind) = false := by
  induction cs generalizing pending with
  | nil =>
      rfl
  | cons c cs ih =>
      by_cases hslash : c = '\\'
      · subst hslash
        rw [escapeFrom]
        exact ih (pending + 1)
      · by_cases hbracket : c = '['
        · subst hbracket
          rw [escapeFrom]
          split <;> rfl
        · rw [escapeFrom_cons hslash hbracket]
          rfl

theorem closes_of_isTag
    {cs : List Char}
    (h : isTag cs = true) :
    closes cs = true := by
  cases cs with
  | nil =>
      cases h
  | cons c cs =>
      obtain ⟨hname, hclosed⟩ := Bool.and_eq_true_iff.mp h
      have hbracket : c ≠ '[' := by
        rintro rfl
        cases hname
      rw [closes, hclosed]
      simp [hbracket]

/-- A text is guarded by a backslash at its end, if at all. -/
theorem guardEnd_eq
    (cs : List Char) :
    guardEnd cs = cs ∨ guardEnd cs = cs ++ ['\\'] := by
  unfold guardEnd
  split
  · split
    · exact Or.inl rfl
    · exact Or.inr rfl
  · rename_i hreverse
    right
    rw [List.reverse_eq_iff.mp hreverse]
    rfl
  · exact Or.inl rfl

variable {behind : List Char} (hcloses : closes behind = false)
include hcloses

/-- Escaping does not change whether a bracket is closed. -/
theorem closes_escapeFrom
    (pending : Nat)
    (cs : List Char) :
    closes (escapeFrom pending cs ++ behind) = closes cs := by
  induction cs generalizing pending with
  | nil =>
      rw [escapeFrom, closes_slashes, hcloses]
      rfl
  | cons c cs ih =>
      by_cases hslash : c = '\\'
      · subst hslash
        rw [escapeFrom, ih]
        rfl
      · by_cases hbracket : c = '['
        · subst hbracket
          rw [escapeFrom, List.append_assoc, closes_slashes]
          rfl
        · rw [escapeFrom_cons hslash hbracket, List.append_assoc, closes_slashes,
            List.cons_append, closes, closes, ih]

variable (htag : isTag behind = false)
include htag

/-- Escaping does not change whether a bracket begins a tag. -/
theorem isTag_escapeFrom
    (cs : List Char) :
    isTag (escapeFrom 0 cs ++ behind) = isTag cs := by
  cases cs with
  | nil =>
      exact htag
  | cons c cs =>
      by_cases hslash : c = '\\'
      · subst hslash
        rw [escapeFrom]
        exact isTag_escapeFrom_succ 0 cs behind
      · by_cases hbracket : c = '['
        · subst hbracket
          rw [escapeFrom]
          split <;> rfl
        · rw [escapeFrom_cons hslash hbracket]
          exact congrArg (beginsName c && ·) (closes_escapeFrom hcloses 0 cs)

/-- An escaped text has no tags: outside of a tag, and inside of one that it closes, what is
behind it is read as if behind some backslashes. -/
theorem tagsOf_escapeFrom
    (cs : List Char) :
    (∀ pending, ∃ n,
      tagsOf (piecesFrom 0 (escapeFrom pending cs ++ behind)) = tagsOf (piecesFrom n behind)) ∧
    (closes cs = true →
      ∀ pending, ∃ n,
        tagsOf (piecesThroughTag true (escapeFrom pending cs ++ behind)) =
          tagsOf (piecesFrom n behind)) := by
  induction cs with
  | nil =>
      constructor
      · intro pending
        exact ⟨0 + pending, by rw [escapeFrom, piecesFrom_slashes]⟩
      · intro hfalse
        cases hfalse
  | cons c cs ih =>
      obtain ⟨houtside, hinside⟩ := ih
      by_cases hslash : c = '\\'
      · subst hslash
        constructor
        · intro pending
          rw [escapeFrom]
          exact houtside (pending + 1)
        · intro hclosed pending
          rw [escapeFrom]
          exact hinside hclosed (pending + 1)
      · by_cases hbracket : c = '['
        · subst hbracket
          constructor
          · intro pending
            have hsame := isTag_escapeFrom hcloses htag cs
            rw [escapeFrom]
            cases hbegins : isTag cs with
            | true =>
                -- The bracket is escaped and read as text up to the closing bracket.
                rw [hbegins] at hsame
                have hodd : decide ((0 + (2 * pending + 1)) % 2 = 1) = true := by
                  rw [decide_eq_true_eq]
                  omega
                obtain ⟨n, hn⟩ := hinside (closes_of_isTag hbegins) 0
                refine ⟨n, ?_⟩
                rw [if_pos rfl, List.append_assoc, List.cons_append, piecesFrom_slashes,
                  tagsOf_piecesFrom_tag hsame, hodd, hn]
            | false =>
                rw [hbegins] at hsame
                obtain ⟨n, hn⟩ := houtside 0
                refine ⟨n, ?_⟩
                rw [if_neg (by simp), List.append_assoc, List.cons_append, piecesFrom_slashes,
                  tagsOf_piecesFrom_bracket hsame, hn]
          · intro hclosed
            cases hclosed
        · constructor
          · intro pending
            obtain ⟨n, hn⟩ := houtside 0
            refine ⟨n, ?_⟩
            rw [escapeFrom_cons hslash hbracket, List.append_assoc, List.cons_append,
              piecesFrom_slashes, tagsOf_piecesFrom_cons hslash hbracket, hn]
          · intro hclosed pending
            rw [escapeFrom_cons hslash hbracket, List.append_assoc, List.cons_append,
              tagsOf_piecesThroughTag_slashes]
            by_cases hend : c = ']'
            · -- Behind the closing bracket, text is read as outside of a tag again.
              subst hend
              obtain ⟨n, hn⟩ := houtside 0
              exact ⟨n, hn⟩
            · have hrest : closes cs = true := by
                rw [closes] at hclosed
                simpa [hend, hbracket] using hclosed
              obtain ⟨n, hn⟩ := hinside hrest 0
              exact ⟨n, by rw [tagsOf_piecesThroughTag_cons hend, hn]⟩

/-- An escaped text has no tags: what is behind it is read as if behind some backslashes. -/
theorem exists_tagsOf_escape
    (s : String) :
    ∃ n, tagsOf (piecesFrom 0 ((escape s).toList ++ behind)) = tagsOf (piecesFrom n behind) := by
  rw [escape, String.toList_ofList]
  rcases guardEnd_eq (escapeFrom 0 s.toList) with hsame | hmore
  · rw [hsame]
    exact (tagsOf_escapeFrom hcloses htag s.toList).1 0
  · rw [hmore, List.append_assoc]
    obtain ⟨n, hn⟩ :=
      (tagsOf_escapeFrom (show closes (['\\'] ++ behind) = false from hcloses) rfl
        s.toList).1 0
    exact ⟨n + 1, hn⟩

end Escaping

section Matching

/-- A name that can be written in a tag and in the tag that closes it. -/
@[mk_iff]
structure IsStyleName (name : List Char) : Prop where
  isTagName : IsTagName name
  isTagName_closing : IsTagName ('/' :: name)
  opens : name.head? ≠ some '/'
  noArguments : '=' ∉ name
  trimmed : Style.trim name = name

instance (name : List Char) : Decidable (IsStyleName name) :=
  decidable_of_iff' _ (isStyleName_iff name)

variable {name : List Char}

/-- A text between the tags of a name is read with both tags. -/
theorem tagsOf_between
    (hname : IsStyleName name)
    {text : List Char}
    (htext : IsPlain text)
    (cs : List Char) :
    tagsOf (piecesFrom 0 ('[' :: (name ++ ']' :: (text ++ '[' :: ('/' :: name ++ ']' :: cs))))) =
      name :: ('/' :: name) :: tagsOf (piecesFrom 0 cs) := by
  rw [tagsOf_tag_append hname.isTagName, tagsOf_text_append htext,
    tagsOf_tag_append hname.isTagName_closing]

theorem closed?_canonical
    (name : List Char)
    (arguments : Option (List Char))
    (tags : List OpenTag) :
    closed? name (⟨Style.canonical name, arguments⟩ :: tags) =
      some (⟨Style.canonical name, arguments⟩, tags) := by
  rw [closed?, if_pos (by simp)]

theorem afterTag?_opening
    (hname : IsStyleName name)
    (tags : List OpenTag) :
    afterTag? tags name = some (⟨Style.canonical name, none⟩ :: tags) := by
  have hwhole : name.takeWhile (· != '=') = name := by
    rw [List.takeWhile_eq_self_iff]
    intro c hc
    simp only [bne_iff_ne, ne_eq]
    rintro rfl
    exact hname.noArguments hc
  unfold afterTag?
  simp only [hwhole, List.drop_length]
  split
  · exact absurd rfl hname.opens
  · rfl

/-- The tag that was opened last can be closed by its name. -/
theorem afterTag?_closing
    (hname : IsStyleName name)
    (tags : List OpenTag) :
    afterTag? (⟨Style.canonical name, none⟩ :: tags) ('/' :: name) = some tags := by
  have hwhole : ('/' :: name).takeWhile (· != '=') = '/' :: name := by
    rw [List.takeWhile_eq_self_iff]
    intro c hc
    simp only [bne_iff_ne, ne_eq]
    rintro rfl
    rcases List.mem_cons.mp hc with hslash | hc
    · cases hslash
    · exact hname.noArguments hc
  have hclose : (OpenTag.mk (Style.canonical name) none).canClose = true := by
    simp [OpenTag.canClose]
  unfold afterTag?
  simp only [hwhole, hname.trimmed, closed?_canonical, Option.bind_eq_bind, Option.bind_some,
    hclose, if_true]
  rfl

/-- A tag may be left open. -/
theorem foldlM_afterTag?_opening
    (hname : IsStyleName name) :
    ([name].foldlM afterTag? []).isSome = true := by
  rw [List.foldlM_cons, afterTag?_opening hname]
  rfl

theorem foldlM_afterTag?_pair
    (hname : IsStyleName name) :
    ([name, '/' :: name].foldlM afterTag? []).isSome = true := by
  rw [List.foldlM_cons, afterTag?_opening hname, Option.bind_eq_bind, Option.bind_some,
    List.foldlM_cons, afterTag?_closing hname]
  rfl

end Matching

/-- A marked-up text is shown iff the tags in it match. -/
theorem isSome_print?_iff
    (signs : Pictogram.Signs)
    (markup : String) :
    (Screen.print? signs markup).isSome =
      ((tagsOf (pieces markup.toList)).foldlM afterTag? []).isSome := by
  unfold Screen.print? Screen.seen? plain?
  rw [Option.isSome_map, Option.isSome_map, Option.isSome_map, isSome_seen?]

end Markup
end AccessPolicy
