import Mathlib.Data.List.Perm.Subperm
import SqlComposer.Proofs.Statement.Values
import SqlComposer.Statement.Insert

/-!
The rows an insert writes. Records that set the same columns are written row by row, each in the
order of the first record's columns, and other records are refused. A first record without columns
is the exception: it is written as a row of defaults whatever follows it, so each record has its
row exactly if the first sets a column or is alone (`Setting.insertsEach_iff`).
-/

namespace SqlComposer

open Fragment

/-- An insert into a target and the rows it writes: operands with the columns they are written to.
A row of defaults is one without any. -/
inductive Inserts (s : Setting) (target : Fragment) :
    Fragment → List (List (String × Operand)) → Prop
  | defaults : Inserts s target (cat ["insert into ", target, " default values"]) [[]]
  | values {columns : List String} {rows : List (List Operand)} (listed : columns ≠ [])
      (full : ∀ row ∈ rows, row.length = columns.length) :
      Inserts s target
        (cat ["insert into ", target, " (", s.columns columns, ") values ",
          commas (rows.map fun row => cat ["(", operands row, ")"])])
        (rows.map columns.zip)

structure Record.Fills (r first : Record) (row : List (String × Operand)) : Prop where
  columns : row.map (·.1) = first.columns
  operands : ∀ entry ∈ row, r.get? entry.1 = some entry.2

def Record.Alike (first : Record) (rest : List Record) : Prop :=
  ∀ r ∈ first :: rest, ∀ column, column ∈ r.columns ↔ column ∈ first.columns

/-- Records that set the same columns, and no others, are inserted, with one row for each and the
values bound row by row. -/
structure Setting.InsertsEach (s : Setting) (c : Clauses Fragment) (target : Fragment)
    (first : Record) (rest : List Record) : Prop where
  accepts : first.Alike rest → ∃ f, s.insert c (first :: rest) = .ok f
  refuses : ∀ f, s.insert c (first :: rest) = .ok f → first.Alike rest
  rows : ∀ f, s.insert c (first :: rest) = .ok f →
    ∃ rows, Inserts s target f rows ∧
      List.Forall₂ (fun r row => r.Fills first row) (first :: rest) rows ∧
      f.bindings = rows.flatMap fun row => row.flatMap fun entry => entry.2.bindings

/-! ## The operands of a record -/

namespace Inserts

theorem eq_of_defaults {target : Fragment} {rows : List (List (String × Operand))}
    (inserts : Inserts s target (cat ["insert into ", target, " default values"]) rows) :
    rows = [[]] := by
  generalize read : cat ["insert into ", target, " default values"] = f at inserts
  cases inserts with
  | defaults => rfl
  | values =>
    have pieces := congrArg (·.pieces) read
    simp [List.append_cancel_left_eq] at pieces

end Inserts

namespace Misuse

theorem mapM_eq_ok_iff {A B : Type} {g : A → Except Misuse B} {list : List A} {results : List B} :
    list.mapM g = .ok results ↔ List.Forall₂ (fun a b => g a = .ok b) list results := by
  induction list generalizing results with
  | nil => cases results <;> simp [pure, Except.pure]
  | cons a rest ih =>
    rw [List.mapM_cons]
    constructor
    · intro made
      obtain ⟨b, one, tail⟩ := ok_of_bind made
      obtain ⟨others, more, same⟩ := ok_of_bind tail
      cases same
      exact .cons one (ih.mp more)
    · intro each
      cases each with
      | cons one more =>
        rw [one, ih.mpr more]
        rfl

theorem exists_mapM_eq_ok_iff {A B : Type} {g : A → Except Misuse B} {list : List A} :
    (∃ results, list.mapM g = .ok results) ↔ ∀ a ∈ list, ∃ b, g a = .ok b := by
  simp only [mapM_eq_ok_iff]
  constructor
  · rintro ⟨results, each⟩ a member
    induction each with
    | nil => cases member
    | cons one _ ih =>
      rcases List.mem_cons.mp member with rfl | later
      · exact ⟨_, one⟩
      · exact ih later
  · intro each
    induction list with
    | nil => exact ⟨[], .nil⟩
    | cons a rest ih =>
      obtain ⟨b, one⟩ := each a List.mem_cons_self
      obtain ⟨others, more⟩ := ih fun later member => each later (List.mem_cons_of_mem a member)
      exact ⟨b :: others, .cons one more⟩

end Misuse

namespace Record

variable {r first : Record}

theorem mem_columns_iff {column : String} :
    column ∈ r.columns ↔ ∃ o, r.get? column = some o := by
  simp only [columns, get?, Option.map_eq_some_iff, List.mem_map]
  constructor
  · rintro ⟨entry, member, same⟩
    cases found : r.entries.find? fun entry => decide (entry.1 = column) with
    | some other => exact ⟨other.2, other, rfl, rfl⟩
    | none => simpa [same] using List.find?_eq_none.mp found entry member
  · rintro ⟨_, entry, found, -⟩
    exact ⟨entry, List.mem_of_find?_eq_some found, by simpa using List.find?_some found⟩

theorem length_columns : r.columns.length = r.size := List.length_map _

theorem isEmpty_iff : r.isEmpty = true ↔ r.columns = [] := by
  rw [isEmpty, columns, List.isEmpty_iff, List.map_eq_nil_iff]

theorem nodup_columns_ofList (entries : List (String × Operand)) :
    (ofList entries).columns.Nodup := by
  have kept : ∀ (entries : List (String × Operand)) (r : Record), r.columns.Nodup →
      (entries.foldl (fun r entry => r.set entry.1 entry.2) r).columns.Nodup := by
    intro entries
    induction entries with
    | nil => exact fun _ unique => unique
    | cons entry rest ih => exact fun r unique => ih _ (nodup_columns_set unique _ _)
  exact kept entries {} List.nodup_nil

end Record

namespace Setting

variable {r first : Record} {columns : List String}

theorem rowOperands_eq_ok_iff {list : List Operand} :
    rowOperands columns r = .ok list ↔
      r.size = columns.length ∧
        List.Forall₂ (fun column o => r.get? column = some o) columns list := by
  unfold rowOperands
  split
  · next sized =>
    rw [Misuse.mapM_eq_ok_iff, and_iff_right sized]
    constructor
    · intro each
      refine each.imp fun column o read => ?_
      cases found : r.get? column <;> simp_all
    · intro each
      refine each.imp fun column o found => ?_
      rw [found]
  · next other => simp [other]

theorem mem_columns_iff_of_rowOperands (unique : columns.Nodup) {list : List Operand}
    (full : rowOperands columns r = .ok list) (column : String) :
    column ∈ r.columns ↔ column ∈ columns := by
  obtain ⟨sized, each⟩ := rowOperands_eq_ok_iff.mp full
  have inside : columns ⊆ r.columns := by
    intro column member
    obtain ⟨i, bound, rfl⟩ := List.getElem_of_mem member
    have other : i < list.length := each.length_eq ▸ bound
    exact Record.mem_columns_iff.mpr ⟨list[i], each.get bound other⟩
  have perm : columns.Perm r.columns :=
    (List.subperm_of_subset unique inside).perm_of_length_le
      (Nat.le_of_eq (Record.length_columns.trans sized))
  exact perm.mem_iff.symm

theorem exists_rowOperands (known : r.columns.Nodup) (unique : columns.Nodup)
    (same : ∀ column, column ∈ r.columns ↔ column ∈ columns) :
    ∃ list, rowOperands columns r = .ok list := by
  have perm : r.columns.Perm columns := (List.perm_ext_iff_of_nodup known unique).mpr same
  have sized : r.size = columns.length := Record.length_columns.symm.trans perm.length_eq
  rw [rowOperands, if_pos sized]
  refine Misuse.exists_mapM_eq_ok_iff.mpr fun column member => ?_
  obtain ⟨o, found⟩ := Record.mem_columns_iff.mp ((same column).mpr member)
  exact ⟨o, by rw [found]⟩

theorem fills_of_rowOperands {list : List Operand} (full : rowOperands first.columns r = .ok list) :
    r.Fills first (first.columns.zip list) := by
  obtain ⟨-, each⟩ := rowOperands_eq_ok_iff.mp full
  constructor
  · exact List.map_fst_zip (Nat.le_of_eq each.length_eq)
  · intro entry member
    exact (List.forall₂_iff_zip.mp each).2 member

theorem mapM_insertRow (records : List Record) :
    records.mapM (insertRow columns) =
      (records.mapM (rowOperands columns)).map
        (List.map fun list => cat ["(", operands list, ")"]) := by
  induction records with
  | nil => rfl
  | cons r rest ih =>
    rw [List.mapM_cons, List.mapM_cons, ih, insertRow]
    cases rowOperands columns r with
    | error m => rfl
    | ok list => cases rest.mapM (rowOperands columns) <;> rfl

theorem bindings_row {list : List Operand} (sized : list.length = columns.length) :
    (columns.zip list).flatMap (fun entry => entry.2.bindings) =
      list.flatMap fun o => o.bindings := by
  calc (columns.zip list).flatMap (fun entry => entry.2.bindings)
      = ((columns.zip list).map Prod.snd).flatMap fun o => o.bindings := (List.flatMap_map ..).symm
    _ = list.flatMap fun o => o.bindings := by
      rw [List.map_snd_zip (Nat.le_of_eq sized)]

/-! ## The rows of an insert -/

section Records

variable {s : Setting} {c : Clauses Fragment} {name : Name} {rest : List Record}

theorem insert_eq_ok_iff_of_listed (named : c.source = some (.table name))
    (listed : first.columns ≠ []) {f : Fragment} :
    s.insert c (first :: rest) = .ok f ↔
      ∃ lists, (first :: rest).mapM (rowOperands first.columns) = .ok lists ∧
        cat ["insert into ", s.table name, " (", s.columns first.columns, ") values ",
          commas (lists.map fun list => cat ["(", operands list, ")"])] = f := by
  have shown : (!first.isEmpty) = true := by
    simpa [← Record.isEmpty_iff] using listed
  have head : (first :: rest).head?.filter (!·.isEmpty) = some first := by simp [shown]
  have target : s.written c = .ok (s.table name) := by rw [written, named]
  rw [insert, insertAs, target, head]
  simp only [mapM_insertRow]
  cases (first :: rest).mapM (rowOperands first.columns) with
  | error m => exact ⟨nofun, nofun⟩
  | ok lists =>
    constructor
    · intro made
      exact ⟨lists, rfl, Except.ok.inj made⟩
    · rintro ⟨_, same, rfl⟩
      cases same
      rfl

theorem insert_of_unlisted (named : c.source = some (.table name)) (unlisted : first.columns = []) :
    s.insert c (first :: rest) =
      .ok (cat ["insert into ", s.table name, " default values"]) := by
  have empty : first.isEmpty = true := Record.isEmpty_iff.mpr unlisted
  have head : (first :: rest).head?.filter (!·.isEmpty) = none := by simp [empty]
  have target : s.written c = .ok (s.table name) := by rw [written, named]
  rw [insert, insertAs, target, head]
  rfl

theorem insertsEach_of_listed (named : c.source = some (.table name)) (listed : first.columns ≠ [])
    (unique : ∀ r ∈ first :: rest, r.columns.Nodup) :
    s.InsertsEach c (s.table name) first rest := by
  have alone : first.columns.Nodup := unique first List.mem_cons_self
  constructor
  · intro alike
    have full : ∀ r ∈ first :: rest, ∃ list, rowOperands first.columns r = .ok list :=
      fun r member => exists_rowOperands (unique r member) alone (alike r member)
    obtain ⟨lists, made⟩ := Misuse.exists_mapM_eq_ok_iff.mpr full
    exact ⟨_, (insert_eq_ok_iff_of_listed named listed).mpr ⟨lists, made, rfl⟩⟩
  · intro f inserted r member
    obtain ⟨lists, made, -⟩ := (insert_eq_ok_iff_of_listed named listed).mp inserted
    obtain ⟨list, full⟩ := Misuse.exists_mapM_eq_ok_iff.mp ⟨lists, made⟩ r member
    exact mem_columns_iff_of_rowOperands alone full
  · intro f inserted
    obtain ⟨lists, made, rfl⟩ := (insert_eq_ok_iff_of_listed named listed).mp inserted
    have each := Misuse.mapM_eq_ok_iff.mp made
    have sized : ∀ list ∈ lists, list.length = first.columns.length := by
      intro list member
      obtain ⟨r, -, full⟩ := Misuse.mem_of_mapM made member
      exact (rowOperands_eq_ok_iff.mp full).2.length_eq.symm
    refine ⟨lists.map first.columns.zip, .values listed sized, ?_, ?_⟩
    · exact List.forall₂_map_right_iff.mpr (each.imp fun r list full => fills_of_rowOperands full)
    · have rows := List.flatMap_congr fun list member => bindings_row (sized list member)
      simpa [List.flatMap_map] using rows.symm

/-- Each record has its row, and others than alike ones are refused, exactly if the first record
sets a column or is the only one. -/
theorem insertsEach_iff (named : c.source = some (.table name))
    (unique : ∀ r ∈ first :: rest, r.columns.Nodup) :
    s.InsertsEach c (s.table name) first rest ↔ first.columns ≠ [] ∨ rest = [] := by
  by_cases unlisted : first.columns = []
  · have inserted : s.insert c (first :: rest) =
        .ok (cat ["insert into ", s.table name, " default values"]) :=
      insert_of_unlisted named unlisted
    constructor
    · intro each
      obtain ⟨rows, inserts, filled, -⟩ := each.rows _ inserted
      rw [inserts.eq_of_defaults] at filled
      obtain ⟨-, none⟩ := List.forall₂_cons.mp filled
      exact .inr (List.forall₂_nil_right_iff.mp none)
    · rintro (listed | rfl)
      · exact absurd unlisted listed
      · exact
          { accepts := fun _ => ⟨_, inserted⟩
            refuses := fun _ _ r member column => by rw [List.mem_singleton.mp member]
            rows := fun f made => by
              cases inserted.symm.trans made
              refine ⟨[[]], .defaults, .cons ⟨unlisted.symm, nofun⟩ .nil, ?_⟩
              simp [Setting.bindings_table] }
  · exact iff_of_true (insertsEach_of_listed named unlisted unique) (.inl unlisted)

/-- Records that set the same columns in different orders. -/
theorem insertsEach_of_reordered_records :
    let first := Record.ofList
      [("name", .value (.text "ada")), ("rank", .value (.int 1)), ("seen", .expression "now()")]
    let second := Record.ofList
      [("seen", .value .null), ("name", .value (.text "bob")), ("rank", .value (.int 2))]
    let c : Clauses Fragment := { source := some (.table (.parse "users")) }
    c.source = some (.table (.parse "users")) ∧
      (∀ r ∈ [first, second], r.columns.Nodup) ∧
      (Setting.mk .postgres "app_").InsertsEach c
        (Setting.table ⟨.postgres, "app_"⟩ (.parse "users")) first [second] ∧
      ((Setting.mk .postgres "app_").insert c [first, second]).toOption.map
          (·.statement Dialect.postgres.style) =
        some ⟨"insert into \"app_users\" (\"name\", \"rank\", \"seen\") values " ++
          "($1, $2, now()), ($3, $4, $5)",
          [.text "ada", .int 1, .text "bob", .int 2, .null]⟩ := by
  intro first second c
  have unique : ∀ r ∈ [first, second], r.columns.Nodup :=
    List.forall_mem_cons.mpr ⟨Record.nodup_columns_ofList _,
      List.forall_mem_singleton.mpr (Record.nodup_columns_ofList _)⟩
  exact ⟨rfl, unique, (insertsEach_iff rfl unique).mpr (.inl (by decide)), by decide +kernel⟩

/-- A record without columns lets one with columns pass, and nothing of it is inserted. -/
theorem not_insertsEach_of_record_without_columns :
    ¬ (Setting.mk .mysql "").InsertsEach { source := some (.table (.parse "t")) }
      (Setting.table ⟨.mysql, ""⟩ (.parse "t")) {} [Record.ofList [("a", .value (.int 1))]] := by
  intro each
  have alike := each.refuses _ rfl
  have set := alike (.ofList [("a", .value (.int 1))]) (by decide) "a"
  exact absurd (set.mp (by decide)) (by decide)

end Records

end Setting

end SqlComposer
