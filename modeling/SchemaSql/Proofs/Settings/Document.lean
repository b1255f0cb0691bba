/-
Which texts are settings.

A settings document is defined here a second time, by what it says and not by how it is
read. A value means some settings (`Means`) if it is an object with the right keys and
values, or a short array of such values, and a text is a document if it spells such a
value in the grammar of JSON. The reader accepts exactly these texts and yields exactly
what they mean (`ofJson_eq_ok_iff_means`).

Members are read one after the other, and each removes its field from those to come. In
between the settings are partly those before and partly those that were read. `Fills` is
this course of events as a relation. That in the end every field has what its key says, or
its default, is a matter of looking keys up. A key that was read is not to come again, and
so the first member with a key is the only one (`fills_iff`).

For values there is nothing to decide but where a string or a word ends, and the grammar
says that already (`readValue_eq_ok_iff`).
-/
import SchemaSql.Changeset
import SchemaSql.Error
import SchemaSql.Proofs.Json.Reading
import SchemaSql.Settings.Document

set_option autoImplicit false

namespace SchemaSql

theorem Dialect.ofName_eq_ok_iff {name : String} {d : Dialect} :
    Dialect.ofName name = .ok d ↔ Dialect.ofName? name = some d := by
  rw [Dialect.ofName]
  cases Dialect.ofName? name with
  | none => simp
  | some found => simp

namespace Settings

open SchemaSql.Json SchemaSql.Json.Grammar

/-! ## What a document says -/

/-- A value that names a dialect. -/
def NamesDialect (dialect : Dialect) : Value → Prop
  | .string name => Dialect.ofName name = .ok dialect
  | _ => False

/-- A truth value, or null. -/
def IsSwitch (switch : Option Bool) : Value → Prop
  | .null => switch = none
  | .boolean value => switch = some value
  | _ => False

/-- What is said of the dialect, if anything is. -/
def SaysDialect (dialect : Dialect) : Option Value → Prop
  | some v => NamesDialect dialect v
  | none => dialect = .postgres

/-- What is said of the dropping of columns, if anything is. -/
def SaysSwitch (switch : Option Bool) : Option Value → Prop
  | some v => IsSwitch switch v
  | none => switch = none

/-- **What a value means** as a settings document. -/
def Means (c : Settings) : Value → Prop
  | .object members =>
    (members.map Prod.fst).Nodup
      ∧ (∀ key ∈ members.map Prod.fst, key = "dialect" ∨ key = "native_drop_column")
      ∧ SaysDialect c.dialect (members.lookup "dialect")
      ∧ SaysSwitch c.nativeDropColumn (members.lookup "native_drop_column")
  | .array values =>
    values.length ≤ 2 ∧ SaysDialect c.dialect values[0]? ∧ SaysSwitch c.nativeDropColumn values[1]?
  | _ => False

/-! ## Values -/

variable {s r : List Char}

theorem readDialect_eq_ok_iff {dialect : Dialect} :
    readDialect s = .ok (dialect, r) ↔ ∃ v, Spelled v s r ∧ NamesDialect dialect v := by
  constructor
  · intro h
    unfold readDialect at h
    split at h
    · next t hquote =>
      split at h
      · cases h
      · next text t' htext =>
        split at h
        · cases h
        · next found hfound =>
          cases h
          refine ⟨.string (String.ofList text), ?_, Dialect.ofName_eq_ok_iff.mpr hfound⟩
          exact .string ((blanks_cons_iff rfl).mpr hquote) (readString?_eq_some_iff.mp htext)
    · cases h
  · rintro ⟨v, hv, hnames⟩
    cases hv with
    | string hquote htext =>
      have hfound := Dialect.ofName_eq_ok_iff.mp hnames
      simp only [readDialect, (blanks_cons_iff rfl).mp hquote,
        readString?_eq_some_iff.mpr htext, hfound]
    | _ => exact hnames.elim

theorem readSwitch_eq_ok_iff {switch : Option Bool} :
    readSwitch s = .ok (switch, r) ↔ ∃ v, Spelled v s r ∧ IsSwitch switch v := by
  constructor
  · intro h
    have hword : ∀ {word : String}, afterWord? word (skipSpace s) = some r →
        Blanks s (word.toList ++ r) := by
      intro word hafter
      rw [← afterWord?_eq_some_iff.mp hafter]
      exact blanks_skipSpace s
    simp only [readSwitch] at h
    split at h
    · next hnull =>
      cases h
      exact ⟨.null, .null (hword hnull), rfl⟩
    · next htrue _ =>
      cases h
      exact ⟨.boolean true, .true (hword htrue), rfl⟩
    · next hfalse _ _ =>
      cases h
      exact ⟨.boolean false, .false (hword hfalse), rfl⟩
    · cases h
  · rintro ⟨v, hv, hswitch⟩
    cases hv with
    | null hword =>
      have hskip : skipSpace s = 'n' :: ("ull".toList ++ r) := (blanks_cons_iff rfl).mp hword
      cases hswitch
      unfold readSwitch
      rw [hskip]
      rfl
    | true hword =>
      have hskip : skipSpace s = 't' :: ("rue".toList ++ r) := (blanks_cons_iff rfl).mp hword
      cases hswitch
      unfold readSwitch
      rw [hskip]
      rfl
    | false hword =>
      have hskip : skipSpace s = 'f' :: ("alse".toList ++ r) := (blanks_cons_iff rfl).mp hword
      cases hswitch
      unfold readSwitch
      rw [hskip]
      rfl
    | _ => exact hswitch.elim

/-- What has become of a field at the end, if a value is given for it and if none is. -/
def Field.Ends (before after : Settings) (o : Option Value) : Field → Prop
  | .dialect =>
    match o with
    | some v => NamesDialect after.dialect v
    | none => after.dialect = before.dialect
  | .nativeDropColumn =>
    match o with
    | some v => IsSwitch after.nativeDropColumn v
    | none => after.nativeDropColumn = before.nativeDropColumn

/-- What a value of a field does to the settings. The other field stays. -/
def Field.Sets (v : Value) (before after : Settings) (f : Field) : Prop :=
  f.Ends before after (some v) ∧ ∀ g, g ≠ f → g.Ends before after none

theorem Field.sets_dialect_iff {v : Value} {before after : Settings} :
    Field.dialect.Sets v before after
      ↔ NamesDialect after.dialect v ∧ after.nativeDropColumn = before.nativeDropColumn := by
  constructor
  · exact fun h => ⟨h.1, h.2 .nativeDropColumn (by decide)⟩
  · rintro ⟨hnames, hsame⟩
    refine ⟨hnames, fun g hg => ?_⟩
    cases g with
    | dialect => exact absurd rfl hg
    | nativeDropColumn => exact hsame

theorem Field.sets_nativeDropColumn_iff {v : Value} {before after : Settings} :
    Field.nativeDropColumn.Sets v before after
      ↔ IsSwitch after.nativeDropColumn v ∧ after.dialect = before.dialect := by
  constructor
  · exact fun h => ⟨h.1, h.2 .dialect (by decide)⟩
  · rintro ⟨hswitch, hsame⟩
    refine ⟨hswitch, fun g hg => ?_⟩
    cases g with
    | dialect => exact hsame
    | nativeDropColumn => exact absurd rfl hg

/-- **Reading a value.** -/
theorem readValue_eq_ok_iff {c c' : Settings} {f : Field} :
    readValue c s f = .ok (c', r) ↔ ∃ v, Spelled v s r ∧ f.Sets v c c' := by
  cases f with
  | dialect =>
    simp only [Field.sets_dialect_iff]
    rw [readValue]
    constructor
    · intro h
      split at h
      · cases h
      · next dialect t hread =>
        cases h
        obtain ⟨v, hv, hnames⟩ := readDialect_eq_ok_iff.mp hread
        exact ⟨v, hv, hnames, rfl⟩
    · rintro ⟨v, hv, hnames, hsame⟩
      rw [readDialect_eq_ok_iff.mpr ⟨v, hv, hnames⟩, ← hsame]
  | nativeDropColumn =>
    simp only [Field.sets_nativeDropColumn_iff]
    rw [readValue]
    constructor
    · intro h
      split at h
      · cases h
      · next switch t hread =>
        cases h
        obtain ⟨v, hv, hswitch⟩ := readSwitch_eq_ok_iff.mp hread
        exact ⟨v, hv, hswitch, rfl⟩
    · rintro ⟨v, hv, hswitch, hsame⟩
      rw [readSwitch_eq_ok_iff.mpr ⟨v, hv, hswitch⟩, ← hsame]

/-! ## Members -/

/-- **Members one after the other.** A field that has been set is not to come again. -/
inductive Fills : List Field → Settings → List (String × Value) → Settings → Prop
  | done {toCome : List Field} {c : Settings} : Fills toCome c [] c
  | more {toCome : List Field} {f : Field} {v : Value} {members : List (String × Value)}
    {before now after : Settings} (hf : f ∈ toCome) (hv : f.Sets v before now)
    (h : Fills (toCome.erase f) now members after) :
    Fills toCome before ((f.key, v) :: members) after

theorem Field.ofKey?_eq_some_iff {key : String} {f : Field} :
    Field.ofKey? key = some f ↔ f.key = key := by
  constructor
  · intro h
    rw [Field.ofKey?] at h
    have hkey := List.find?_some h
    exact eq_of_beq hkey
  · rintro rfl
    cases f <;> decide

theorem afterColon?_eq_some_iff : afterColon? s = some r ↔ skipSpace s = ':' :: r := by
  constructor
  · intro h
    unfold afterColon? at h
    split at h
    · next hcolon =>
      cases h
      exact hcolon
    · cases h
  · intro h
    rw [afterColon?, h]
    rfl

theorem readKey_eq_ok_iff {f : Field} :
    readKey s = .ok (f, r)
      ↔ ∃ t key, skipSpace s = '"' :: t ∧ Text key t r ∧ String.ofList key = f.key := by
  constructor
  · intro h
    unfold readKey at h
    split at h
    · next t hquote =>
      split at h
      · cases h
      · next key u hkey =>
        split at h
        · cases h
        · next found hfound =>
          cases h
          exact ⟨t, key, hquote, readString?_eq_some_iff.mp hkey,
            (Field.ofKey?_eq_some_iff.mp hfound).symm⟩
    · cases h
  · rintro ⟨t, key, hquote, hkey, hf⟩
    simp only [readKey, hquote, readString?_eq_some_iff.mpr hkey,
      Field.ofKey?_eq_some_iff.mpr hf.symm]

/-- **Reading a member** up to its value. -/
theorem member_iff {f : Field} {v : Value} :
    Member Spelled (f.key, v) s r
      ↔ ∃ t u, readKey s = .ok (f, t) ∧ afterColon? t = some u ∧ Spelled v u r := by
  constructor
  · intro h
    generalize hm : (f.key, v) = m at h
    obtain ⟨hquote, hkey, hcolon, hv⟩ := h
    obtain ⟨hf, rfl⟩ := Prod.mk.inj hm
    exact ⟨_, _, readKey_eq_ok_iff.mpr ⟨_, _, (blanks_cons_iff rfl).mp hquote, hkey, hf.symm⟩,
      afterColon?_eq_some_iff.mpr ((blanks_cons_iff rfl).mp hcolon), hv⟩
  · rintro ⟨t, u, hread, hcolon, hv⟩
    obtain ⟨a, key, hquote, hkey, hf⟩ := readKey_eq_ok_iff.mp hread
    rw [← hf]
    exact .mk ((blanks_cons_iff rfl).mpr hquote) hkey
      ((blanks_cons_iff rfl).mpr (afterColon?_eq_some_iff.mp hcolon)) hv

theorem nextMember?_eq_some_iff {isFirst : Bool} :
    nextMember? isFirst s = some r ↔ s = if isFirst then r else ',' :: r := by
  cases isFirst with
  | true =>
    show some s = some r ↔ s = r
    rw [Option.some.injEq]
  | false =>
    constructor
    · intro h
      unfold nextMember? at h
      rw [if_neg Bool.false_ne_true] at h
      split at h
      · cases h
        rfl
      · cases h
    · rintro rfl
      rfl

theorem items_nil_iff {isFirst : Bool} :
    Items (Member Spelled) '}' isFirst [] s r ↔ skipSpace s = '}' :: r := by
  rw [← blanks_cons_iff rfl]
  constructor
  · rintro ⟨h⟩
    exact h
  · exact .close

/-- Blanks in front of a member make no difference. -/
theorem member_skipSpace_iff {m : String × Value} :
    Member Spelled m (skipSpace s) r ↔ Member Spelled m s r := by
  have hsame : ∀ {c : Char} {t : List Char}, isSpace c = false →
      (Blanks (skipSpace s) (c :: t) ↔ Blanks s (c :: t)) := by
    intro c t hc
    rw [blanks_cons_iff hc, blanks_cons_iff hc, skipSpace_skipSpace]
  constructor
  · rintro ⟨hquote, hkey, hcolon, hv⟩
    exact .mk ((hsame rfl).mp hquote) hkey hcolon hv
  · rintro ⟨hquote, hkey, hcolon, hv⟩
    exact .mk ((hsame rfl).mpr hquote) hkey hcolon hv

theorem items_cons_iff {isFirst : Bool} {m : String × Value} {members : List (String × Value)} :
    Items (Member Spelled) '}' isFirst (m :: members) s r
      ↔ ∃ t u, nextMember? isFirst (skipSpace s) = some t ∧ Member Spelled m t u
          ∧ Items (Member Spelled) '}' false members u r := by
  constructor
  · intro h
    cases h with
    | first hm h => exact ⟨skipSpace s, _, rfl, member_skipSpace_iff.mpr hm, h⟩
    | next hcomma hm h =>
      exact ⟨_, _, nextMember?_eq_some_iff.mpr ((blanks_cons_iff rfl).mp hcomma), hm, h⟩
  · rintro ⟨t, u, hnext, hm, h⟩
    have hstart := nextMember?_eq_some_iff.mp hnext
    cases isFirst with
    | true =>
      have hm : Member Spelled m (skipSpace s) u := hstart ▸ hm
      exact .first (member_skipSpace_iff.mp hm) h
    | false => exact .next ((blanks_cons_iff rfl).mpr hstart) hm h

/-- **Reading the members.** -/
theorem readMembers_eq_ok_iff {toCome : List Field} {isFirst : Bool} {c c' : Settings} :
    readMembers toCome isFirst c s = .ok (c', r)
      ↔ ∃ members, Items (Member Spelled) '}' isFirst members s r ∧ Fills toCome c members c' := by
  constructor
  · intro h
    fun_induction readMembers toCome isFirst c s with
    | case1 toCome isFirst c s rest hclose =>
      cases h
      exact ⟨[], items_nil_iff.mpr hclose, .done⟩
    | case6 toCome isFirst c s t f u hkey hf w hcolon now x hvalue _ hnext ih =>
      obtain ⟨v, hv, hsets⟩ := readValue_eq_ok_iff.mp hvalue
      obtain ⟨members, hitems, hfills⟩ := ih h
      refine ⟨(f.key, v) :: members, items_cons_iff.mpr ⟨t, x, hnext, ?_, hitems⟩,
        .more hf hsets hfills⟩
      exact member_iff.mpr ⟨u, w, hkey, hcolon, hv⟩
    | _ => cases h
  · rintro ⟨members, hitems, hfills⟩
    induction hfills generalizing isFirst s with
    | done =>
      rw [readMembers, items_nil_iff.mp hitems]
      rfl
    | more hf hv _ ih =>
      obtain ⟨t, u, hnext, hmember, hrest⟩ := items_cons_iff.mp hitems
      obtain ⟨a, b, hkey, hcolon, hspelled⟩ := member_iff.mp hmember
      have hopen : ∀ rest, skipSpace s ≠ '}' :: rest := by
        -- The text goes on with a comma or with the quote of the key.
        intro rest hclose
        have hstart := nextMember?_eq_some_iff.mp hnext
        cases isFirst with
        | true =>
          obtain ⟨_, _, hquote, -⟩ := readKey_eq_ok_iff.mp hkey
          rw [if_pos rfl] at hstart
          rw [← hstart, skipSpace_skipSpace, hclose] at hquote
          cases hquote
        | false =>
          rw [hclose] at hstart
          cases hstart
      unfold readMembers
      split
      · next hclose => exact absurd hclose (hopen _)
      · simp only [hnext, hkey, dif_pos hf, hcolon, readValue_eq_ok_iff.mpr ⟨_, hspelled, hv⟩]
        exact ih hrest

/-! ## Fields -/

variable {before now after : Settings} {f g : Field} {v : Value}

theorem Field.key_inj : f.key = g.key ↔ f = g := by
  cases f <;> cases g <;> decide

/-- A field that is left alone first. -/
theorem Field.Ends.trans_left {o : Option Value} (h : f.Ends before now none) :
    f.Ends now after o ↔ f.Ends before after o := by
  cases f <;> cases o <;> simp_all [Ends]

/-- A field that is left alone afterwards. -/
theorem Field.Ends.trans_right (h : f.Ends now after none) :
    f.Ends before after (some v) ↔ f.Ends before now (some v) := by
  cases f <;> simp_all [Ends]

/-- A field can be set at once to what it is in the end. -/
theorem Field.Ends.exists_sets (h : f.Ends before after (some v)) :
    ∃ now, f.Sets v before now ∧ f.Ends now after none := by
  cases f with
  | dialect =>
    exact ⟨{ before with dialect := after.dialect }, Field.sets_dialect_iff.mpr ⟨h, rfl⟩, rfl⟩
  | nativeDropColumn =>
    exact ⟨{ before with nativeDropColumn := after.nativeDropColumn },
      Field.sets_nativeDropColumn_iff.mpr ⟨h, rfl⟩, rfl⟩

theorem eq_of_ends (h : ∀ f : Field, f.Ends before after none) : after = before := by
  have hdialect : after.dialect = before.dialect := h .dialect
  have hswitch : after.nativeDropColumn = before.nativeDropColumn := h .nativeDropColumn
  cases after
  cases before
  cases hdialect
  cases hswitch
  rfl

theorem lookup_eq_none {key : String} {members : List (String × Value)}
    (h : key ∉ members.map Prod.fst) : members.lookup key = none := by
  rw [List.lookup_eq_none_iff]
  intro m hm
  rw [bne_iff_ne]
  rintro rfl
  exact h (List.mem_map_of_mem hm)

theorem lookup_cons_of_ne {members : List (String × Value)} (h : g ≠ f) :
    List.lookup g.key ((f.key, v) :: members) = members.lookup g.key := by
  have hkey : (g.key == f.key) = false := by
    rw [beq_eq_false_iff_ne]
    exact fun hkey => h (Field.key_inj.mp hkey)
  rw [List.lookup_cons, hkey]

/-- A first member sets its field, and the others leave that field alone. -/
theorem ends_cons_iff {members : List (String × Value)} (hfresh : f.key ∉ members.map Prod.fst)
    (hsets : f.Sets v before now) :
    (∀ g : Field, g.Ends now after (members.lookup g.key))
      ↔ f.Ends now after none
        ∧ ∀ g : Field, g.Ends before after (List.lookup g.key ((f.key, v) :: members)) := by
  constructor
  · intro h
    have hsame := h f
    rw [lookup_eq_none hfresh] at hsame
    refine ⟨hsame, fun g => ?_⟩
    by_cases hg : g = f
    · rw [hg, List.lookup_cons_self]
      exact hsame.trans_right.mpr hsets.1
    · rw [lookup_cons_of_ne hg]
      exact (hsets.2 g hg).trans_left.mp (h g)
  · rintro ⟨hsame, h⟩ g
    by_cases hg : g = f
    · rw [hg, lookup_eq_none hfresh]
      exact hsame
    · have hend := h g
      rw [lookup_cons_of_ne hg] at hend
      exact (hsets.2 g hg).trans_left.mpr hend

/-- Without the first field there are those of the other keys. -/
theorem keys_erase_iff {toCome : List Field} (hnodup : toCome.Nodup) (hf : f ∈ toCome)
    {keys : List String} :
    (∀ key ∈ keys, ∃ g ∈ toCome.erase f, g.key = key)
      ↔ f.key ∉ keys ∧ ∀ key ∈ f.key :: keys, ∃ g ∈ toCome, g.key = key := by
  constructor
  · intro h
    constructor
    · intro hmem
      obtain ⟨g, hg, hkey⟩ := h _ hmem
      rw [Field.key_inj.mp hkey] at hg
      exact hnodup.not_mem_erase hg
    · intro key hkey
      rcases List.mem_cons.mp hkey with rfl | hkey
      · exact ⟨f, hf, rfl⟩
      · obtain ⟨g, hg, hgkey⟩ := h key hkey
        exact ⟨g, List.mem_of_mem_erase hg, hgkey⟩
  · rintro ⟨hfresh, h⟩ key hkey
    obtain ⟨g, hg, rfl⟩ := h key (List.mem_cons_of_mem _ hkey)
    have hne : g ≠ f := by
      rintro rfl
      exact hfresh hkey
    exact ⟨g, (List.mem_erase_of_ne hne).mpr hg, rfl⟩

/-- **The outcome of members.** Their keys are different and to come, and looking up a field among
them tells what becomes of it. -/
theorem fills_iff {toCome : List Field} (hnodup : toCome.Nodup)
    {members : List (String × Value)} :
    Fills toCome before members after
      ↔ (members.map Prod.fst).Nodup ∧ (∀ key ∈ members.map Prod.fst, ∃ f ∈ toCome, f.key = key)
        ∧ ∀ f : Field, f.Ends before after (members.lookup f.key) := by
  induction members generalizing toCome before with
  | nil =>
    constructor
    · rintro ⟨⟩
      refine ⟨List.nodup_nil, fun _ hkey => absurd hkey List.not_mem_nil, fun f => ?_⟩
      cases f <;> rfl
    · rintro ⟨-, -, hends⟩
      rw [eq_of_ends hends]
      exact .done
  | cons m members ih =>
    obtain ⟨key, v⟩ := m
    rw [List.map_cons, List.nodup_cons]
    constructor
    · intro h
      cases h with
      | more hf hsets h =>
        obtain ⟨hkeys, hknown, hends⟩ := (ih (hnodup.erase _)).mp h
        obtain ⟨hfresh, hknown⟩ := (keys_erase_iff hnodup hf).mp hknown
        exact ⟨⟨hfresh, hkeys⟩, hknown, ((ends_cons_iff hfresh hsets).mp hends).2⟩
    · rintro ⟨⟨hfresh, hkeys⟩, hknown, hends⟩
      obtain ⟨f, hf, rfl⟩ := hknown key List.mem_cons_self
      have hend := hends f
      rw [List.lookup_cons_self] at hend
      obtain ⟨now, hsets, hsame⟩ := hend.exists_sets
      exact .more hf hsets ((ih (hnodup.erase f)).mpr ⟨hkeys,
        (keys_erase_iff hnodup hf).mpr ⟨hfresh, hknown⟩,
        (ends_cons_iff hfresh hsets).mpr ⟨hsame, hends⟩⟩)

theorem ends_dialect_iff {o : Option Value} :
    Field.dialect.Ends {} after o ↔ SaysDialect after.dialect o := by
  cases o <;> exact Iff.rfl

theorem ends_nativeDropColumn_iff {o : Option Value} :
    Field.nativeDropColumn.Ends {} after o ↔ SaysSwitch after.nativeDropColumn o := by
  cases o <;> exact Iff.rfl

/-- **Members that fill in all settings** are an object that means them. -/
theorem fills_all_iff {members : List (String × Value)} :
    Fills Field.all {} members after ↔ Means after (.object members) := by
  have hkey : ∀ key, (∃ f ∈ Field.all, f.key = key)
      ↔ key = "dialect" ∨ key = "native_drop_column" := by
    intro key
    simp [Field.all, Field.key, eq_comm]
  have hfields : (∀ f : Field, f.Ends {} after (members.lookup f.key))
      ↔ SaysDialect after.dialect (members.lookup "dialect")
        ∧ SaysSwitch after.nativeDropColumn (members.lookup "native_drop_column") := by
    rw [← ends_dialect_iff, ← ends_nativeDropColumn_iff]
    constructor
    · exact fun h => ⟨h .dialect, h .nativeDropColumn⟩
    · rintro ⟨hdialect, hswitch⟩ f
      cases f with
      | dialect => exact hdialect
      | nativeDropColumn => exact hswitch
  rw [fills_iff (by decide), hfields, Means]
  simp only [hkey]

/-! ## The array form -/

theorem readClose_eq_ok_iff {c c' : Settings} :
    readClose c s = .ok (c', r) ↔ skipSpace s = ']' :: r ∧ c' = c := by
  constructor
  · intro h
    unfold readClose at h
    split at h
    · next hclose =>
      cases h
      exact ⟨hclose, rfl⟩
    · cases h
  · rintro ⟨hclose, rfl⟩
    rw [readClose, hclose]
    rfl

theorem readValue_skipSpace (c : Settings) (s : List Char) (f : Field) :
    readValue c (skipSpace s) f = readValue c s f := by
  cases f with
  | dialect => rw [readValue, readValue, readDialect, readDialect, skipSpace_skipSpace]
  | nativeDropColumn => rw [readValue, readValue, readSwitch, readSwitch, skipSpace_skipSpace]

/-- Where a dialect is read there is no bracket. -/
theorem skipSpace_ne_of_readValue {c c' : Settings} (h : readValue c s .dialect = .ok (c', r))
    (rest : List Char) : skipSpace s ≠ ']' :: rest := by
  intro hclose
  rw [readValue, readDialect, hclose] at h
  cases h

theorem exists_items_of_readElements {c : Settings} (h : readElements s = .ok (c, r)) :
    ∃ values, Items Spelled ']' true values s r ∧ Means c (.array values) := by
  unfold readElements at h
  split at h
  · next hclose =>
    cases h
    exact ⟨[], .close ((blanks_cons_iff rfl).mpr hclose), Nat.zero_le 2, rfl, rfl⟩
  rw [readValue_skipSpace] at h
  split at h
  · cases h
  next now t hread =>
  obtain ⟨v, hv, hsets⟩ := readValue_eq_ok_iff.mp hread
  obtain ⟨hnames, hnone⟩ := Field.sets_dialect_iff.mp hsets
  split at h
  · next u hcomma =>
    split at h
    · cases h
    next last w hread =>
    obtain ⟨v', hv', hsets⟩ := readValue_eq_ok_iff.mp hread
    obtain ⟨hswitch, hsame⟩ := Field.sets_nativeDropColumn_iff.mp hsets
    obtain ⟨hclose, rfl⟩ := readClose_eq_ok_iff.mp h
    rw [← hsame] at hnames
    refine ⟨[v, v'], ?_, Nat.le_refl 2, hnames, hswitch⟩
    exact .first hv (.next ((blanks_cons_iff rfl).mpr hcomma) hv'
      (.close ((blanks_cons_iff rfl).mpr hclose)))
  · obtain ⟨hclose, rfl⟩ := readClose_eq_ok_iff.mp h
    rw [skipSpace_skipSpace] at hclose
    refine ⟨[v], ?_, Nat.le_succ 1, hnames, hnone⟩
    exact .first hv (.close ((blanks_cons_iff rfl).mpr hclose))

theorem readElements_of_items {c : Settings} {values : List Value}
    (hitems : Items Spelled ']' true values s r) (hmeans : Means c (.array values)) :
    readElements s = .ok (c, r) := by
  obtain ⟨hlength, hdialect, hswitch⟩ := hmeans
  cases hitems with
  | close hclose =>
    rw [readElements, (blanks_cons_iff rfl).mp hclose]
    cases c
    cases hdialect
    cases hswitch
    rfl
  | first hv hrest =>
    rename_i v values t
    -- After the first value the dialect is known and the switch has its default.
    let now : Settings := { dialect := c.dialect }
    have hread : readValue {} s .dialect = .ok (now, t) :=
      readValue_eq_ok_iff.mpr ⟨v, hv, Field.sets_dialect_iff.mpr ⟨hdialect, rfl⟩⟩
    unfold readElements
    split
    · next hclose => exact absurd hclose (skipSpace_ne_of_readValue hread _)
    cases hrest with
    | close hclose =>
      have hnow : c = now := by
        cases c
        cases hswitch
        rfl
      simp only [readValue_skipSpace, hread, (blanks_cons_iff rfl).mp hclose]
      exact readClose_eq_ok_iff.mpr ⟨skipSpace_cons rfl r, hnow⟩
    | next hcomma hv' hrest =>
      rename_i v' values u w
      have hread' : readValue now u .nativeDropColumn = .ok (c, w) :=
        readValue_eq_ok_iff.mpr ⟨v', hv', Field.sets_nativeDropColumn_iff.mpr ⟨hswitch, rfl⟩⟩
      -- A third value would be one too many.
      obtain rfl : values = [] := by
        rw [List.length_cons, List.length_cons] at hlength
        exact List.length_eq_zero_iff.mp (by omega)
      obtain ⟨hclose⟩ := hrest
      simp only [readValue_skipSpace, hread, (blanks_cons_iff rfl).mp hcomma, hread']
      exact readClose_eq_ok_iff.mpr ⟨(blanks_cons_iff rfl).mp hclose, rfl⟩

/-- **Reading an array.** -/
theorem readElements_eq_ok_iff {c : Settings} :
    readElements s = .ok (c, r)
      ↔ ∃ values, Items Spelled ']' true values s r ∧ Means c (.array values) :=
  ⟨exists_items_of_readElements, fun ⟨_, hitems, hmeans⟩ => readElements_of_items hitems hmeans⟩

/-! ## The document -/

theorem atEnd_eq_ok_iff {x : Except Flaw (Settings × List Char)} {c : Settings} :
    atEnd x = .ok c ↔ ∃ r, x = .ok (c, r) ∧ Blanks r [] := by
  constructor
  · intro h
    unfold atEnd at h
    split at h
    · cases h
    · next found r =>
      split_ifs at h with hend
      cases h
      exact ⟨r, rfl, blanks_nil_iff.mpr (List.isEmpty_iff.mp hend)⟩
  · rintro ⟨r, rfl, hend⟩
    rw [atEnd, blanks_nil_iff.mp hend]
    rfl

/-- **A settings document** is a text that spells a value which means some settings, and these are
what is read. -/
theorem ofJson_eq_ok_iff_means {text : String} {c : Settings} :
    ofJson text = .ok c ↔ ∃ v, IsDocument v text ∧ Means c v := by
  constructor
  · intro h
    unfold ofJson at h
    split at h
    · next rest hbrace =>
      obtain ⟨r, hread, hend⟩ := atEnd_eq_ok_iff.mp h
      obtain ⟨members, hitems, hfills⟩ := readMembers_eq_ok_iff.mp hread
      refine ⟨.object members, ⟨r, ?_, hend⟩, fills_all_iff.mp hfills⟩
      exact .object ((blanks_cons_iff rfl).mpr hbrace) hitems
    · next rest hbracket =>
      obtain ⟨r, hread, hend⟩ := atEnd_eq_ok_iff.mp h
      obtain ⟨values, hitems, hmeans⟩ := readElements_eq_ok_iff.mp hread
      exact ⟨.array values, ⟨r, .array ((blanks_cons_iff rfl).mpr hbracket) hitems, hend⟩, hmeans⟩
    · cases h
  · rintro ⟨v, ⟨r, hv, hend⟩, hmeans⟩
    cases hv with
    | array hbracket hitems =>
      have hread := readElements_eq_ok_iff.mpr ⟨_, hitems, hmeans⟩
      rw [ofJson, (blanks_cons_iff rfl).mp hbracket]
      exact atEnd_eq_ok_iff.mpr ⟨r, hread, hend⟩
    | object hbrace hitems =>
      have hread := readMembers_eq_ok_iff.mpr ⟨_, hitems, fills_all_iff.mpr hmeans⟩
      rw [ofJson, (blanks_cons_iff rfl).mp hbrace]
      exact atEnd_eq_ok_iff.mpr ⟨r, hread, hend⟩
    | _ => exact hmeans.elim

/-- **Which texts are settings, and what they are.** The settings of a text are what the JSON value
means that it spells. Without such a value there is an error about the settings. A changeset for
them has the capabilities that they know of, and else those of the dialect. -/
theorem settings_of_document (text : String) :
    (∀ c, ofJson text = .ok c ↔ ∃ v, IsDocument v text ∧ Means c v)
      ∧ ((¬∃ v c, IsDocument v text ∧ Means c v) →
          ∃ flaw, (ofJson text).mapError Error.settings = .error (.settings flaw))
      ∧ ∀ c, ofJson text = .ok c →
          (Changeset.ofSettings c).dialect = c.dialect
            ∧ (Changeset.ofSettings c).capabilities
              = (c.nativeDropColumn.map Capabilities.mk).getD c.dialect.defaultCapabilities := by
  refine ⟨fun c => ofJson_eq_ok_iff_means, ?_, ?_⟩
  · intro hnone
    cases hread : ofJson text with
    | error flaw => exact ⟨flaw, rfl⟩
    | ok c =>
      obtain ⟨v, hdocument, hmeans⟩ := ofJson_eq_ok_iff_means.mp hread
      exact absurd ⟨v, c, hdocument, hmeans⟩ hnone
  · intro c _
    refine ⟨rfl, ?_⟩
    rw [Changeset.ofSettings, Settings.capabilities]
    cases c.nativeDropColumn <;> rfl

/-- An escape in the name of a dialect, blanks around it, and null for what is not known. -/
example : ofJson "[\" \\u004dySQL\",\n null]" = .ok { dialect := .mysql } := by
  decide +kernel

end Settings

end SchemaSql
