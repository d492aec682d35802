import AccessPolicy.Proofs.DocumentRules
import AccessPolicy.Proofs.Shorthand.Spellings
import AccessPolicy.Proofs.Yaml.Kinds

/-!
# Spellings of metadata

The metadata of a rule is written as a map, as a list of maps with one entry each, or as a list of
pairs.  This module compares the rules that are written in the three ways.

**Metadata of a rule.**  A rule that is written with metadata is the rule without any, with the
pairs that are read of the metadata put in place (`Rule.withMetadata_eq_accepted_iff`).

**Keys.**  A map has the texts of its keys, whatever these are, while the keys of a list must be
texts to begin with or bytes that encode one.  The ways of writing are therefore as good as each
other for texts, and for a key that has no text at all, but for no other keys: bytes come out
differently, and numbers are refused in lists (`Rule.metadata_spellings`).
-/

namespace AccessPolicy

section Bytes

open Value

theorem byteText_ne_empty
    (quote : Char)
    (b : UInt8) :
    byteText quote b ≠ "" := by
  unfold byteText
  dsimp only
  split_ifs <;> simp

theorem Text.length_le_join
    {items : List String}
    (hitems : ∀ s ∈ items, s ≠ "") :
    items.length ≤ (join "" items).utf8ByteSize := by
  induction items with
  | nil =>
      simp
  | cons s rest ih =>
      obtain ⟨hs, hrest⟩ := List.forall_mem_cons.mp hitems
      have hpos : 0 < s.utf8ByteSize :=
        Nat.pos_of_ne_zero fun hzero => hs (String.utf8ByteSize_eq_zero_iff.mp hzero)
      have hjoin : (join "" (s :: rest)).utf8ByteSize =
          s.utf8ByteSize + (join "" rest).utf8ByteSize := by
        cases rest <;> simp [join, String.utf8ByteSize_append]
      rw [hjoin, List.length_cons]
      have hlength := ih hrest
      omega

/-- The text that bytes encode is not the text that shows them. -/
theorem decoded?_ne_bytesText
    (bs : List UInt8) :
    decoded? bs ≠ some (bytesText bs) := by
  intro h
  have hsize : (bytesText bs).utf8ByteSize = bs.length := by
    unfold decoded? String.fromUTF8? at h
    split at h
    · rw [← Option.some.inj h]
      exact List.size_toArray
    · cases h
  have hjoin :
      ∀ quote, bs.length ≤ (Text.join "" (bs.map (byteText quote))).utf8ByteSize := by
    intro quote
    have hitems : ∀ s ∈ bs.map (byteText quote), s ≠ "" :=
      List.forall_mem_map.mpr fun b _ => byteText_ne_empty quote b
    calc bs.length
        = (bs.map (byteText quote)).length := (List.length_map _).symm
      _ ≤ _ := Text.length_le_join hitems
  have hletter : "b".utf8ByteSize = 1 := by
    decide
  -- The letter and the quotes are more than the bytes.
  simp only [bytesText, String.utf8ByteSize_append, hletter] at hsize
  have hle := hjoin (if bs.contains 0x27 && !bs.contains 0x22 then '"' else '\'')
  omega

end Bytes

/-- A text is what a scalar is read as and written as iff it is that text. -/
theorem Value.IsScalar.readable?_eq_display_iff
    {k : Value}
    (hk : k.IsScalar) :
    k.readable? = some k.display ↔ ∃ s, k = .text s := by
  cases hk with
  | text s =>
      exact ⟨fun _ => ⟨s, rfl⟩, fun _ => rfl⟩
  | bytes items =>
      exact ⟨fun h => absurd h (decoded?_ne_bytesText items), nofun⟩
  | _ =>
      exact ⟨nofun, nofun⟩

/-- A scalar without a text to be written as is not read as one either. -/
theorem Value.IsScalar.readable?_eq_none
    {k : Value}
    (hk : k.IsScalar)
    (hdisplay : k.isDisplayable = false) :
    k.readable? = none := by
  cases hk with
  | int i =>
      rfl
  | _ =>
      cases hdisplay

namespace Shorthand

/-- The maps with one entry each that together have the entries of a map. -/
def singles (type : TypeRef) (es : Entries) : Value :=
  .list (es.map fun e => .map type [e])

/-- The entries of a map as pairs. -/
def pairs (es : Entries) : Value :=
  .list (es.map fun e => .list [e.1, e.2])

/-- Items that stand for pairs each stand for these pairs. -/
theorem mapM_metadataPair
    {item : Value × Value → Value}
    (hitem : ∀ e, metadataPair (item e) = .ok e)
    (es : Entries) :
    (es.map item).mapM metadataPair = .ok es := by
  rw [mapM_eq_ok_iff_forall₂, List.forall₂_map_left_iff, List.forall₂_same]
  exact fun e _ => hitem e

theorem metadata_singles
    (type : TypeRef)
    (es : Entries) :
    metadata (singles type es) = .ok es :=
  mapM_metadataPair (fun _ => rfl) es

theorem metadata_pairs
    (es : Entries) :
    metadata (pairs es) = .ok es :=
  mapM_metadataPair (fun _ => rfl) es

/-- Pairs of metadata stand for themselves. -/
theorem metadata_ofPairs
    (es : Entries) :
    metadata (Value.ofPairs es) = .ok es :=
  mapM_metadataPair (fun _ => rfl) es

theorem metadata_map_eq_ok_iff
    {type : TypeRef}
    {es found : Entries} :
    metadata (.map type es) = .ok found
      ↔
    (∀ e ∈ es, e.1.isDisplayable = true) ∧ found = es.map fun e => (.text e.1.display, e.2) := by
  unfold metadata
  dsimp only
  split
  · rename_i hall
    rw [List.all_eq_true] at hall
    exact ⟨fun h => ⟨hall, (Except.ok.inj h).symm⟩, fun h => congrArg _ h.2.symm⟩
  · rename_i hall
    rw [List.all_eq_true] at hall
    exact ⟨fun h => (by cases h), fun h => absurd h.1 hall⟩

end Shorthand

namespace Verdict

/-- A key that belongs to a field is not refused. -/
theorem noOthers_set
    {fields : List String}
    {key : Value}
    {field : String}
    (hkey : key.text? = some field)
    (hfield : field ∈ fields)
    (es : Entries)
    (v : Value) :
    noOthers (es.set key v) fields = noOthers es fields := by
  have hflat :
      ∀ f : Value × Value → List Problem, (∀ e e', e.1 = e'.1 → f e = f e') → f (key, v) = [] →
        (es.set key v).flatMap f = es.flatMap f := by
    intro f hf hnil
    induction es with
    | nil =>
        simp [Entries.set, hnil]
    | cons e rest ih =>
        obtain ⟨k, w⟩ := e
        rw [Entries.set]
        split
        · rw [List.flatMap_cons, List.flatMap_cons, hf (k, v) (k, w) rfl]
        · rw [List.flatMap_cons, List.flatMap_cons, ih]
  unfold noOthers
  dsimp only
  rw [hflat _ (fun e e' he => by rw [he]) (by simp [hkey, hfield])]

end Verdict

namespace Rule

/-- The verdict on a rule that is given with some metadata. -/
def withMetadata (given : Entries) (v : Value) : Verdict Rule :=
  read (given.set (.text "metadata") v)

section Metadata

variable {given : Entries} {v : Value}

/-- Metadata has no bearing on the other fields. -/
theorem getText?_withDefaultName_set
    (field : String) :
    (withDefaultName (given.set (.text "metadata") v)).getText? field =
      if field = "metadata" then some v else (withDefaultName given).getText? field := by
  have hset :
      ∀ (es : Entries) (n : String) (w : Value) (f : String),
        (es.set (.text n) w).getText? f = if f = n then some w else es.getText? f :=
    fun es n w f => Entries.getText?_set rfl es w f
  have hname : (given.set (.text "metadata") v).getText? "name" = given.getText? "name" :=
    hset given "metadata" v "name"
  have hobject : (given.set (.text "metadata") v).getText? "object" = given.getText? "object" :=
    hset given "metadata" v "object"
  have haction : (given.set (.text "metadata") v).getText? "action" = given.getText? "action" :=
    hset given "metadata" v "action"
  unfold withDefaultName
  dsimp only
  rw [hname, hobject, haction]
  split
  · exact hset given "metadata" v field
  · rw [hset _ "name", hset _ "name", hset given "metadata"]
    by_cases hmeta : field = "metadata"
    · subst hmeta
      simp
    · simp [hmeta]

theorem noOthers_withDefaultName
    (input : Entries) :
    Verdict.noOthers (withDefaultName input) fieldNames = Verdict.noOthers input fieldNames := by
  unfold withDefaultName
  split
  · rfl
  · have hkey : (Value.text "name").text? = some "name" := rfl
    exact Verdict.noOthers_set hkey (by decide) _ _

/-- What is read of a rule before its metadata. -/
def beforeMetadata (given : Entries) : Verdict (Fields → Option String → Rule) :=
  Rule.mk <$> Verdict.required (withDefaultName given) "object" Verdict.name
    <*> Verdict.required (withDefaultName given) "action" Verdict.name
    <*> Verdict.required (withDefaultName given) "name" Verdict.name
    <*> Verdict.optional (withDefaultName given) "allow" [] readConditions
    <*> Verdict.optional (withDefaultName given) "deny" [] readConditions
    <*> Verdict.optional (withDefaultName given) "pre_hooks" [] readHooks

theorem metadata_of_beforeMetadata
    {make : Fields → Option String → Rule}
    (h : beforeMetadata given = .accepted make)
    (fields : Fields)
    (description : Option String) :
    make fields description = { make [] description with metadata := fields } := by
  simp only [beforeMetadata, Verdict.seq_eq_accepted_iff, Verdict.map_eq_accepted_iff] at h
  obtain ⟨_, hooks, ⟨_, deny, ⟨_, allow, ⟨_, name, ⟨_, action, ⟨object, _, rfl⟩, _, rfl⟩, _,
    rfl⟩, _, rfl⟩, _, rfl⟩, _, rfl⟩ := h
  rfl

/-- A rule is read field by field, and of its metadata only what that is read as counts. -/
theorem withMetadata_eq :
    withMetadata given v =
      (beforeMetadata given
        <*> Verdict.under (.name "metadata") (readMetadata v)
        <*> Verdict.optional (withDefaultName given) "description" none Verdict.optionalText
        <* Verdict.noOthers given fieldNames) := by
  have hkey : (Value.text "metadata").text? = some "metadata" := rfl
  rw [withMetadata, read, readNamed, noOthers_withDefaultName,
    Verdict.noOthers_set hkey (by decide)]
  simp only [Verdict.required, Verdict.optional, getText?_withDefaultName_set]
  rfl

/-- A rule with metadata is accepted iff it is without any and the metadata is accepted, and then
they differ in the metadata only. -/
theorem withMetadata_eq_accepted_iff
    {r : Rule} :
    withMetadata given v = .accepted r
      ↔
    ∃ r₀ fields, withMetadata given (.list []) = .accepted r₀ ∧
      readMetadata v = .accepted fields ∧ r = { r₀ with metadata := fields } := by
  have hnone : readMetadata (.list []) = .accepted [] := rfl
  simp only [withMetadata_eq, hnone, Verdict.seqLeft_eq_accepted_iff, Verdict.seq_eq_accepted_iff,
    Verdict.under_eq_accepted_iff]
  constructor
  · rintro ⟨⟨_, description, ⟨make, fields, hmake, hfields, rfl⟩, hdescription, rfl⟩, hothers⟩
    refine ⟨make [] description, fields, ⟨?_, hothers⟩, hfields,
      metadata_of_beforeMetadata hmake fields description⟩
    exact ⟨make [], description, ⟨make, [], hmake, rfl, rfl⟩, hdescription, rfl⟩
  · rintro ⟨_, fields, ⟨⟨_, description, ⟨make, _, hmake, hempty, rfl⟩, hdescription, rfl⟩,
      hothers⟩, hfields, rfl⟩
    cases hempty
    rw [← metadata_of_beforeMetadata hmake fields description]
    exact ⟨⟨make fields, description, ⟨make, fields, hmake, hfields, rfl⟩, hdescription, rfl⟩,
      hothers⟩

end Metadata

section Spellings

variable (given : Entries) (type : TypeRef) (es : Entries)

/-- The three ways of writing metadata give one and the same rule, or none of them gives any. -/
def SpellingsAgree : Prop :=
  (∃ r, withMetadata given (.map type es) = .accepted r ∧
    withMetadata given (Shorthand.singles type es) = .accepted r ∧
    withMetadata given (Shorthand.pairs es) = .accepted r) ∨
  ∀ r, withMetadata given (.map type es) ≠ .accepted r ∧
    withMetadata given (Shorthand.singles type es) ≠ .accepted r ∧
    withMetadata given (Shorthand.pairs es) ≠ .accepted r

/-- Both kinds of lists are the same to a rule. -/
theorem withMetadata_singles :
    withMetadata given (Shorthand.singles type es) = withMetadata given (Shorthand.pairs es) := by
  rw [withMetadata_eq, withMetadata_eq, readMetadata, readMetadata, Shorthand.metadata_singles,
    Shorthand.metadata_pairs]

variable {given type es} {r : Rule}

theorem withMetadata_map_iff :
    withMetadata given (.map type es) = .accepted r
      ↔
    ∃ r₀, withMetadata given (.list []) = .accepted r₀ ∧
      (∀ e ∈ es, e.1.isDisplayable = true) ∧
      r = { r₀ with metadata := es.map fun e => (e.1.display, e.2) } := by
  have hread :
      ∀ fields, readMetadata (.map type es) = .accepted fields
        ↔
      (∀ e ∈ es, e.1.isDisplayable = true) ∧ fields = es.map fun e => (e.1.display, e.2) := by
    intro fields
    rw [readMetadata_eq_accepted_iff]
    constructor
    · rintro ⟨pairs, hpairs, hfields⟩
      obtain ⟨hall, rfl⟩ := Shorthand.metadata_map_eq_ok_iff.mp hpairs
      rw [List.forall₂_map_left_iff] at hfields
      refine ⟨hall, (List.forall₂_eq_eq_eq ▸ ?_ : es.map _ = fields).symm⟩
      rw [List.forall₂_map_left_iff]
      exact hfields.imp fun e f h => Prod.ext (Verdict.accepted.inj h.1) h.2.symm
    · rintro ⟨hall, rfl⟩
      refine ⟨_, Shorthand.metadata_map_eq_ok_iff.mpr ⟨hall, rfl⟩, ?_⟩
      rw [List.forall₂_map_left_iff, List.forall₂_map_right_iff, List.forall₂_same]
      exact fun e _ => ⟨rfl, rfl⟩
  rw [withMetadata_eq_accepted_iff]
  simp only [hread]
  constructor
  · rintro ⟨r₀, _, hr₀, ⟨hall, rfl⟩, rfl⟩
    exact ⟨r₀, hr₀, hall, rfl⟩
  · rintro ⟨r₀, hr₀, hall, rfl⟩
    exact ⟨r₀, _, hr₀, ⟨hall, rfl⟩, rfl⟩

theorem withMetadata_pairs_iff :
    withMetadata given (Shorthand.pairs es) = .accepted r
      ↔
    ∃ r₀ fields, withMetadata given (.list []) = .accepted r₀ ∧
      List.Forall₂ (fun e f => e.1.readable? = some f.1 ∧ f.2 = e.2) es fields ∧
      r = { r₀ with metadata := fields } := by
  rw [withMetadata_eq_accepted_iff]
  simp only [readMetadata_eq_accepted_iff, Shorthand.metadata_pairs, Except.ok.injEq,
    exists_eq_left', Verdict.text_eq_accepted_iff]

/-- What is refused as a map and as pairs is refused in all spellings. -/
theorem spellingsAgree_of_refused
    (hmap : ∀ r, withMetadata given (.map type es) ≠ .accepted r)
    (hpairs : ∀ r, withMetadata given (Shorthand.pairs es) ≠ .accepted r) :
    SpellingsAgree given type es := by
  refine .inr fun r => ⟨hmap r, ?_, hpairs r⟩
  rw [withMetadata_singles]
  exact hpairs r

/-- Without a rule to put metadata into there is none in any spelling. -/
theorem spellingsAgree_of_no_rule
    (hnone : ∀ r, withMetadata given (.list []) ≠ .accepted r) :
    SpellingsAgree given type es := by
  refine spellingsAgree_of_refused (fun r hmap => ?_) fun r hpairs => ?_
  · obtain ⟨r₀, hr₀, _⟩ := withMetadata_map_iff.mp hmap
    exact hnone r₀ hr₀
  · obtain ⟨r₀, _, hr₀, _⟩ := withMetadata_pairs_iff.mp hpairs
    exact hnone r₀ hr₀

/-- Metadata with texts as keys gives one rule in all spellings, if any. -/
theorem spellingsAgree_of_texts
    (htexts : ∀ e ∈ es, ∃ s, e.1 = .text s) :
    SpellingsAgree given type es := by
  by_cases hbase : ∃ r₀, withMetadata given (.list []) = .accepted r₀
  · obtain ⟨r₀, hr₀⟩ := hbase
    have hpairs : withMetadata given (Shorthand.pairs es) =
        .accepted { r₀ with metadata := es.map fun e => (e.1.display, e.2) } := by
      refine withMetadata_pairs_iff.mpr ⟨r₀, _, hr₀, ?_, rfl⟩
      rw [List.forall₂_map_right_iff, List.forall₂_same]
      intro e he
      obtain ⟨s, hs⟩ := htexts e he
      exact ⟨by rw [hs]; rfl, rfl⟩
    refine .inl ⟨_, withMetadata_map_iff.mpr ⟨r₀, hr₀, fun e he => ?_, rfl⟩, ?_, hpairs⟩
    · obtain ⟨s, hs⟩ := htexts e he
      rw [hs]
      rfl
    · rw [withMetadata_singles, hpairs]
  · exact spellingsAgree_of_no_rule (not_exists.mp hbase)

/-- A key that has no text is refused in all spellings. -/
theorem spellingsAgree_of_undisplayable
    (hkeys : ∀ e ∈ es, e.1.IsScalar)
    (hkey : ∃ e ∈ es, e.1.isDisplayable = false) :
    SpellingsAgree given type es := by
  obtain ⟨e, he, hdisplay⟩ := hkey
  refine spellingsAgree_of_refused (fun r hmap => ?_) fun r hpairs => ?_
  · obtain ⟨r₀, _, hall, _⟩ := withMetadata_map_iff.mp hmap
    rw [hall e he] at hdisplay
    cases hdisplay
  · obtain ⟨r₀, fields, _, hfields, _⟩ := withMetadata_pairs_iff.mp hpairs
    obtain ⟨f, _, hread, _⟩ := exists_of_mem_left hfields he
    rw [(hkeys e he).readable?_eq_none hdisplay] at hread
    cases hread

theorem spellingsAgree_iff
    (hkeys : ∀ e ∈ es, e.1.IsScalar) :
    SpellingsAgree given type es
      ↔
    (∀ r, withMetadata given (.list []) ≠ .accepted r) ∨
      (∀ e ∈ es, ∃ s, e.1 = .text s) ∨ ∃ e ∈ es, e.1.isDisplayable = false := by
  constructor
  · rintro (⟨r, hmap, _, hpairs⟩ | hnone)
    · obtain ⟨r₀, _, hall, rfl⟩ := withMetadata_map_iff.mp hmap
      obtain ⟨r₁, fields, _, hfields, heq⟩ := withMetadata_pairs_iff.mp hpairs
      have hmeta : es.map (fun e => (e.1.display, e.2)) = fields :=
        congrArg Rule.metadata heq
      rw [← hmeta, List.forall₂_map_right_iff, List.forall₂_same] at hfields
      exact .inr (.inl fun e he =>
        (hkeys e he).readable?_eq_display_iff.mp (hfields e he).1)
    · by_cases hdisplay : ∃ e ∈ es, e.1.isDisplayable = false
      · exact .inr (.inr hdisplay)
      · refine .inl fun r₀ hr₀ => (hnone _).1 (withMetadata_map_iff.mpr ⟨r₀, hr₀, ?_, rfl⟩)
        intro e he
        rw [← Bool.not_eq_false]
        exact fun hfalse => hdisplay ⟨e, he, hfalse⟩
  · rintro (hnone | htexts | hkey)
    · exact spellingsAgree_of_no_rule hnone
    · exact spellingsAgree_of_texts htexts
    · exact spellingsAgree_of_undisplayable hkeys hkey

/-- **Spellings of metadata.**  With keys that a text can have, the two kinds of lists are always
the same.  A map gives the texts of its keys, unless one of them has none, and a list gives what its
keys are read as, if all of them are.  So the map agrees with the lists iff the rule is no rule for
another reason, or all keys are texts, or one of them has no text at all.  What metadata is
converted to is metadata for itself. -/
theorem metadata_spellings
    (given : Entries)
    (type : TypeRef)
    (es : Entries)
    (hkeys : ∀ e ∈ es, e.1.IsScalar) :
    withMetadata given (Shorthand.singles type es) = withMetadata given (Shorthand.pairs es) ∧
    (∀ r, withMetadata given (.map type es) = .accepted r
      ↔
      ∃ r₀, withMetadata given (.list []) = .accepted r₀ ∧
        (∀ e ∈ es, e.1.isDisplayable = true) ∧
        r = { r₀ with metadata := es.map fun e => (e.1.display, e.2) }) ∧
    (∀ r, withMetadata given (Shorthand.pairs es) = .accepted r
      ↔
      ∃ r₀ fields, withMetadata given (.list []) = .accepted r₀ ∧
        List.Forall₂ (fun e f => e.1.readable? = some f.1 ∧ f.2 = e.2) es fields ∧
        r = { r₀ with metadata := fields }) ∧
    (SpellingsAgree given type es
      ↔
      (∀ r, withMetadata given (.list []) ≠ .accepted r) ∨
        (∀ e ∈ es, ∃ s, e.1 = .text s) ∨ ∃ e ∈ es, e.1.isDisplayable = false) ∧
    ∀ v found, Shorthand.metadata v = .ok found →
      Shorthand.metadata (Value.ofPairs found) = .ok found :=
  ⟨withMetadata_singles given type es, fun _ => withMetadata_map_iff,
    fun _ => withMetadata_pairs_iff, spellingsAgree_iff hkeys,
    fun _ found _ => Shorthand.metadata_ofPairs found⟩

/-- The data of a rule on pages, without metadata. -/
def page : Entries :=
  Value.textEntries [("object", .text "page"), ("action", .text "view")]

/-- The rule that `page` stands for. -/
def pageRule : Rule where
  object := "page"
  action := "view"
  name := "page_view"
  allow := []
  deny := []
  preHooks := []
  metadata := []
  description := none

/-- A number as a key becomes a text in a map and is refused in lists, the bytes of a text are shown
in a map and decoded in lists, and a text is the same everywhere. -/
theorem page_spellings :
    withMetadata page (.record [(.int 1, .text "draft")]) =
      .accepted { pageRule with metadata := [("1", .text "draft")] } ∧
    (∀ r, withMetadata page (Shorthand.pairs [(.int 1, .text "draft")]) ≠ .accepted r) ∧
    ¬ SpellingsAgree page (.builtin .map) [(.int 1, .text "draft")] ∧
    ¬ SpellingsAgree page (.builtin .map) [(.bytes [0x61], .text "draft")] ∧
    SpellingsAgree page (.builtin .map) [(.text "state", .text "draft")] ∧
    Shorthand.metadata (Value.ofPairs [(.text "1", .text "draft")]) =
      .ok [(.text "1", .text "draft")] := by
  have hbase : withMetadata page (.list []) = .accepted pageRule := by
    with_unfolding_all rfl
  have hscalar :
      ∀ k : Value, k.IsScalar → ∀ e ∈ [(k, Value.text "draft")], e.1.IsScalar :=
    fun k hk => by simpa using hk
  have hdisagree :
      ∀ k : Value, k.IsScalar → (∀ s, k ≠ .text s) → k.isDisplayable = true →
        ¬ SpellingsAgree page (.builtin .map) [(k, .text "draft")] := by
    intro k hk hno hdisplay hagree
    obtain ⟨_, _, _, hiff, _⟩ := metadata_spellings page (.builtin .map) _ (hscalar k hk)
    rcases hiff.mp hagree with hnone | htexts | ⟨e, he, hfalse⟩
    · exact hnone pageRule hbase
    · obtain ⟨s, hs⟩ := htexts _ (List.mem_singleton_self _)
      exact hno s hs
    · rw [List.mem_singleton.mp he, hdisplay] at hfalse
      cases hfalse
  obtain ⟨_, hmap, hpairs, _, hagain⟩ :=
    metadata_spellings page (.builtin .map) _ (hscalar _ (.int 1))
  obtain ⟨_, _, _, htext, _⟩ :=
    metadata_spellings page (.builtin .map) _ (hscalar _ (.text "state"))
  refine ⟨(hmap _).mpr ⟨pageRule, hbase, by decide, rfl⟩, fun r hr => ?_,
    hdisagree _ (.int 1) nofun rfl, hdisagree _ (.bytes [0x61]) nofun rfl,
    htext.mpr (.inr (.inl fun e he => ⟨"state", by rw [List.mem_singleton.mp he]⟩)),
    hagain (.record [(.int 1, .text "draft")]) _ rfl⟩
  obtain ⟨_, fields, _, hfields, _⟩ := (hpairs r).mp hr
  cases hfields with
  | cons hkey _ =>
      cases hkey.1

end Spellings

end Rule

end AccessPolicy
