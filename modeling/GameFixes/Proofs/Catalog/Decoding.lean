import GameFixes.Catalog.Entry
import GameFixes.Proofs.Json.Reading
import GameFixes.Proofs.Json.Record

/-!
# Decoding a catalog

Which JSON texts are catalogs, and what they list. A text that is an array of objects is taken
object by object; of an object count the fields of an entry and nothing else.

* `FieldIs m names text?`: what a field of an object says, which has one name or several;
* `IsDecodable`: the objects that say an entry, and `Describes`: the entry that they say;
* `ofJson_eq_ok_iff`: what comes of one object;
* `parse_of_read?`: a text is decoded item by item;
* `ofJson_congr`: other members, and the order of all, do not count;
* `parse_decodes`: all of this together.
-/

namespace GameFixes.Catalog

open Json

/-- The members that are fields of an entry. -/
def entryMembers (m : Members) : Members := m.filter (·.1 ∈ fieldNames.flatten)

/-- No field of an entry stands twice, under whichever of its names. -/
def HasDistinctFields (m : Members) : Prop :=
  ∀ names ∈ fieldNames, (m.filter (·.1 ∈ names)).length ≤ 1

instance : DecidablePred HasDistinctFields :=
  fun m => inferInstanceAs (Decidable (∀ names ∈ fieldNames, (m.filter (·.1 ∈ names)).length ≤ 1))

/-- The members of an object say an entry: each field that is present is a text or null, and one of
the identifiers is a text. -/
structure IsDecodable (m : Members) : Prop where
  fields : ∀ names ∈ fieldNames, ∀ name ∈ names, ∀ v, (name, v) ∈ m →
    v = .null ∨ ∃ s, v = .string (some s)
  id : ∃ name ∈ ["catalog_id", "umu_id", "ulwgl_id"], ∃ s, (name, .string (some s)) ∈ m

/-- What the members of an object say of an entry. -/
structure Describes (m : Members) (e : Entry) : Prop where
  /-- The first identifier that says a text. -/
  catalogId : FieldIs m ["catalog_id"] (some e.catalogId) ∨
    FieldIs m ["catalog_id"] none ∧ (FieldIs m ["umu_id"] (some e.catalogId) ∨
      FieldIs m ["umu_id"] none ∧ FieldIs m ["ulwgl_id"] (some e.catalogId))
  /-- A title that is missing or null is empty. -/
  title : FieldIs m ["title"] (some e.title) ∨ FieldIs m ["title"] none ∧ e.title = ""
  codeName : FieldIs m ["code_name", "codename"] e.codeName
  store : FieldIs m ["store"] e.store

variable {m m' : Members} {e : Entry}

/-! ### One object -/

/-- What the fields of an entry say, each of them. -/
structure Says (m : Members) (catalogId umuId ulwglId title codeName store : Option String) :
    Prop where
  catalogId : FieldIs m ["catalog_id"] catalogId
  umuId : FieldIs m ["umu_id"] umuId
  ulwglId : FieldIs m ["ulwgl_id"] ulwglId
  title : FieldIs m ["title"] title
  codeName : FieldIs m ["code_name", "codename"] codeName
  store : FieldIs m ["store"] store

theorem says_iff_forall₂ {a b c t n s : Option String} :
    Says m a b c t n s ↔ List.Forall₂ (FieldIs m) fieldNames [a, b, c, t, n, s] := by
  simp only [fieldNames, List.forall₂_cons]
  exact ⟨fun ⟨ha, hb, hc, ht, hn, hs⟩ => ⟨ha, hb, hc, ht, hn, hs, .nil⟩,
    fun ⟨ha, hb, hc, ht, hn, hs, _⟩ => ⟨ha, hb, hc, ht, hn, hs⟩⟩

theorem exists_says_iff (h : HasDistinctFields m) : (∃ a b c t n s, Says m a b c t n s) ↔
    ∀ names ∈ fieldNames, ∀ name ∈ names, ∀ v, (name, v) ∈ m →
      v = .null ∨ ∃ s, v = .string (some s) := by
  have hfields : (∃ a b c t n s, Says m a b c t n s) ↔
      ∀ names ∈ fieldNames, ∃ text, FieldIs m names text := by
    simp [says_iff_forall₂, fieldNames]
  rw [hfields]
  exact forall₂_congr fun names hnames => exists_fieldIs_iff (h names hnames)

section Says

variable {a b c t n s : Option String} (h : HasDistinctFields m) (hfields : Says m a b c t n s)
include h hfields

theorem ofJson_of_fields : Entry.ofJson (objectOf m) =
    ((a <|> b) <|> c).elim (.error .missingId) fun id => .ok ⟨id, t.getD "", n, s⟩ := by
  have htexts := (fields_eq_some_iff h).2 (says_iff_forall₂.1 hfields)
  simp only [Entry.ofJson, htexts]
  cases (a <|> b) <|> c <;> rfl

theorem fieldIs_iff_of_fields (text : Option String) :
    (FieldIs m ["catalog_id"] text ↔ a = text) ∧ (FieldIs m ["umu_id"] text ↔ b = text) ∧
      (FieldIs m ["ulwgl_id"] text ↔ c = text) ∧ (FieldIs m ["title"] text ↔ t = text) ∧
      (FieldIs m ["code_name", "codename"] text ↔ n = text) ∧
      (FieldIs m ["store"] text ↔ s = text) :=
  ⟨hfields.catalogId.iff_eq (h _ (by decide)), hfields.umuId.iff_eq (h _ (by decide)),
    hfields.ulwglId.iff_eq (h _ (by decide)), hfields.title.iff_eq (h _ (by decide)),
    hfields.codeName.iff_eq (h _ (by decide)), hfields.store.iff_eq (h _ (by decide))⟩

theorem describes_iff_of_fields : Describes m e ↔
    ((a <|> b) <|> c) = some e.catalogId ∧ t.getD "" = e.title ∧ n = e.codeName ∧ s = e.store := by
  have hid : ((a <|> b) <|> c) = some e.catalogId ↔ a = some e.catalogId ∨
      a = none ∧ (b = some e.catalogId ∨ b = none ∧ c = some e.catalogId) := by
    cases a <;> cases b <;> simp
  have htitle : t.getD "" = e.title ↔ t = some e.title ∨ t = none ∧ e.title = "" := by
    cases t with
    | none => simp [eq_comm (a := "")]
    | some text => simp
  have hiff := fieldIs_iff_of_fields h hfields
  rw [hid, htitle]
  constructor
  · rintro ⟨hcatalogId, htitle, hcodeName, hstore⟩
    simp only [hiff] at hcatalogId htitle hcodeName hstore
    exact ⟨hcatalogId, htitle, hcodeName, hstore⟩
  · rintro ⟨hcatalogId, htitle, hcodeName, hstore⟩
    exact ⟨by simpa only [hiff], by simpa only [hiff], by simpa only [hiff], by simpa only [hiff]⟩

theorem exists_id_iff_of_fields : (∃ name ∈ ["catalog_id", "umu_id", "ulwgl_id"], ∃ text,
    (name, .string (some text)) ∈ m) ↔ ∃ id, ((a <|> b) <|> c) = some id := by
  have htext (name text : String) :
      (name, .string (some text)) ∈ m ↔ FieldIs m [name] (some text) := by
    simp [fieldIs_some_iff]
  simp only [htext, List.exists_mem_cons_iff, fieldIs_iff_of_fields h hfields, List.not_mem_nil,
    false_and, exists_false, or_false]
  cases a <;> cases b <;> simp

end Says

/-- Fields that do not all say something make no entry. -/
theorem ofJson_of_no_fields (h : HasDistinctFields m)
    (hfields : ¬ ∃ a b c t n s, Says m a b c t n s) :
    Entry.ofJson (objectOf m) = .error .malformed := by
  unfold Entry.ofJson
  dsimp only
  split
  · rename_i a b c t n s htexts
    exact absurd ⟨a, b, c, t, n, s, says_iff_forall₂.2 ((fields_eq_some_iff h).1 htexts)⟩ hfields
  · rfl

/-- An object is decoded if it says an entry, to the entry that it says. -/
theorem ofJson_eq_ok_iff (h : HasDistinctFields m) :
    Entry.ofJson (objectOf m) = .ok e ↔ IsDecodable m ∧ Describes m e := by
  have hdecodable : IsDecodable m ↔ (∃ a b c t n s, Says m a b c t n s) ∧
      ∃ name ∈ ["catalog_id", "umu_id", "ulwgl_id"], ∃ s, (name, .string (some s)) ∈ m := by
    rw [exists_says_iff h]
    exact ⟨fun hm => ⟨hm.fields, hm.id⟩, fun hm => ⟨hm.1, hm.2⟩⟩
  rw [hdecodable]
  by_cases hfields : ∃ a b c t n s, Says m a b c t n s
  · rw [and_iff_right hfields]
    obtain ⟨a, b, c, t, n, s, hfields⟩ := hfields
    rw [ofJson_of_fields h hfields, describes_iff_of_fields h hfields,
      exists_id_iff_of_fields h hfields]
    obtain ⟨id, title, codeName, store⟩ := e
    cases (a <|> b) <|> c with
    | none => simp
    | some id' => simp
  · rw [ofJson_of_no_fields h hfields]
    exact iff_of_false nofun fun hd => hfields hd.1.1

/-- An object that says an entry is decoded. -/
theorem exists_ofJson_eq_ok (h : HasDistinctFields m) (hm : IsDecodable m) :
    ∃ e, Entry.ofJson (objectOf m) = .ok e := by
  obtain ⟨a, b, c, t, n, s, hfields⟩ := (exists_says_iff h).2 hm.fields
  obtain ⟨id, hid⟩ := (exists_id_iff_of_fields h hfields).1 hm.id
  rw [ofJson_of_fields h hfields, hid]
  exact ⟨_, rfl⟩

theorem ofJson_congr (h : (entryMembers m).Perm (entryMembers m')) :
    Entry.ofJson (objectOf m) = Entry.ofJson (objectOf m') := by
  rw [Entry.ofJson, Entry.ofJson, record?_congr h]

/-! ### The whole text -/

/-- Entries are decoded one by one. -/
theorem entriesOf_eq_ok_iff {values : List Value} {entries : List Entry} :
    entriesOf values = .ok entries ↔
      List.Forall₂ (fun v e => Entry.ofJson v = .ok e) values entries := by
  induction values generalizing entries with
  | nil => simp [entriesOf, eq_comm]
  | cons v values ih =>
    rw [entriesOf, List.forall₂_cons_left_iff]
    simp only [← ih]
    cases Entry.ofJson v with
    | error fault => simp
    | ok e => cases entriesOf values <;> simp [Except.map, eq_comm]

theorem entriesOf_congr {values values' : List Value}
    (h : List.Forall₂ (fun v v' => Entry.ofJson v = Entry.ofJson v') values values') :
    entriesOf values = entriesOf values' := by
  induction h with
  | nil => rfl
  | cons hv _ ih => rw [entriesOf, entriesOf, hv, ih]

theorem parse_of_read? {content : String} {values : List Value}
    (h : Json.read? content = some (.array values)) : parse content = entriesOf values := by
  rw [parse, readArray?_of_read? h]
  dsimp only
  cases entriesOf values <;> rfl

section Text

variable {content : String} {objects : List Members}
  (h : Json.read? content = some (.array (objects.map objectOf)))
  (hfields : ∀ m ∈ objects, HasDistinctFields m)
include h hfields

theorem parse_eq_ok_iff {entries : List Entry} : parse content = .ok entries ↔
    (∀ m ∈ objects, IsDecodable m) ∧ List.Forall₂ Describes objects entries := by
  rw [parse_of_read? h, entriesOf_eq_ok_iff, List.forall₂_map_left_iff,
    forall₂_congr_of_mem fun m hm e => ofJson_eq_ok_iff (hfields m hm)]
  exact List.forall₂_and_left _ _

theorem exists_parse_eq_ok_iff :
    (∃ entries, parse content = .ok entries) ↔ ∀ m ∈ objects, IsDecodable m := by
  constructor
  · rintro ⟨entries, hentries⟩
    exact ((parse_eq_ok_iff h hfields).1 hentries).1
  · intro hdecodable
    rw [parse_of_read? h]
    simp only [entriesOf_eq_ok_iff, List.forall₂_map_left_iff]
    exact exists_forall₂ fun m hm => exists_ofJson_eq_ok (hfields m hm) (hdecodable m hm)

end Text

/-- **What a catalog says.** A text that is an array of objects, in none of which a field stands
twice, is a catalog if every object says an entry; otherwise all of it is refused. The entries are
those that the objects describe, in their order. Members that are no fields of an entry do not
count, whatever their values are, and neither does the order of the members. -/
theorem parse_decodes {content : String} {objects : List Members}
    (h : Json.read? content = some (.array (objects.map objectOf)))
    (hfields : ∀ m ∈ objects, HasDistinctFields m) :
    ((∃ entries, parse content = .ok entries) ↔ ∀ m ∈ objects, IsDecodable m) ∧
    ((∃ fault, parse content = .error fault) ↔ ∃ m ∈ objects, ¬ IsDecodable m) ∧
    (∀ entries, parse content = .ok entries → List.Forall₂ Describes objects entries) ∧
    ∀ content' objects', Json.read? content' = some (.array (objects'.map objectOf)) →
      List.Forall₂ (fun m m' => (entryMembers m).Perm (entryMembers m')) objects objects' →
        parse content' = parse content := by
  have hok := exists_parse_eq_ok_iff h hfields
  refine ⟨hok, ?_, fun entries hentries => ((parse_eq_ok_iff h hfields).1 hentries).2,
    fun content' objects' h' hsame => ?_⟩
  · have hnot : (∃ m ∈ objects, ¬ IsDecodable m) ↔ ¬ ∃ entries, parse content = .ok entries := by
      rw [hok, not_forall₂]
      simp only [exists_prop]
    rw [hnot]
    cases parse content <;> simp
  · rw [parse_of_read? h, parse_of_read? h']
    refine (entriesOf_congr ?_).symm
    rw [List.forall₂_map_left_iff, List.forall₂_map_right_iff]
    exact hsame.imp fun m m' hm => ofJson_congr hm

/-- An object whose first identifier is null, with a member that is no field; the same fields the
other way round; and a second object without an identifier, which costs the whole catalog. -/
theorem parse_decodes_secondId :
    parse "[\x7b\"x\":[],\"umu_id\":\"new\",\"catalog_id\":null\x7d]" =
      .ok [⟨"new", "", none, none⟩] ∧
    parse "[\x7b\"catalog_id\":null,\"umu_id\":\"new\"\x7d]" =
      parse "[\x7b\"x\":[],\"umu_id\":\"new\",\"catalog_id\":null\x7d]" ∧
    ∃ fault, parse "[\x7b\"umu_id\":\"new\"\x7d,\x7b\x7d]" = .error fault := by
  let m : Members := [("x", .array []), ("umu_id", .string (some "new")), ("catalog_id", .null)]
  let m' : Members := [("catalog_id", .null), ("umu_id", .string (some "new"))]
  obtain ⟨hread, hreversed, hincomplete⟩ :
      Json.read? "[\x7b\"x\":[],\"umu_id\":\"new\",\"catalog_id\":null\x7d]" =
        some (.array ([m].map objectOf)) ∧
      Json.read? "[\x7b\"catalog_id\":null,\"umu_id\":\"new\"\x7d]" =
        some (.array ([m'].map objectOf)) ∧
      Json.read? "[\x7b\"umu_id\":\"new\"\x7d,\x7b\x7d]" =
        some (.array ([[("umu_id", .string (some "new"))], []].map objectOf)) := by
    simp [Json.read?, fuelFor, readValue, readItems, readMembers, skipSpace, isSpace, readText?,
      readString, StringRest.push, alone, objectOf, m, m']
  have hm : HasDistinctFields m := by decide
  have hid : FieldIs m ["umu_id"] (some "new") := fieldIs_some_iff.2 ⟨"umu_id", by simp [m]⟩
  have hdecodable : IsDecodable m :=
    ⟨by simp [fieldNames, m], "umu_id", by decide, "new", by simp [m]⟩
  obtain ⟨hok, -, hdescribes, hsame⟩ := parse_decodes hread (by decide)
  obtain ⟨entries, hentries⟩ := hok.2 (by simpa using hdecodable)
  have hentry : entries = [⟨"new", "", none, none⟩] := by
    obtain ⟨⟨id, title, codeName, store⟩, rest, hd, hrest, rfl⟩ :=
      List.forall₂_cons_left_iff.1 (hdescribes entries hentries)
    obtain rfl := List.forall₂_nil_left_iff.1 hrest
    have hnothing (names : List String) (h : ∀ p ∈ m, p.1 ∈ names → p.2 = .null) :
        FieldIs m names none := .nothing fun name hname v hv => h _ hv hname
    have hfields : Says m none (some "new") none none none none :=
      ⟨hnothing _ (by simp [m]), hid, hnothing _ (by simp [m]), hnothing _ (by simp [m]),
        hnothing _ (by simp [m]), hnothing _ (by simp [m])⟩
    simpa [eq_comm] using (describes_iff_of_fields hm hfields).1 hd
  refine ⟨hentry ▸ hentries, hsame _ _ hreversed (.cons ?_ .nil), ?_⟩
  · have hknown : entryMembers m' = (entryMembers m).reverse := by rfl
    rw [hknown]
    exact (List.reverse_perm _).symm
  · exact (parse_decodes hincomplete (by decide)).2.1.2
      ⟨[], by simp, fun hdecodable => by simpa using hdecodable.id⟩

end GameFixes.Catalog
