import LawnCalibration.Proofs.Store.Inventory

/-
What the writes do to the list of all rows.

An insertion adds one row to the list.  A change puts one row in the place of
another that has the same key and the same time of creation.  All other rows
stay as they are.
-/

set_option autoImplicit false

namespace LawnCalibration.Store.Database

open Calendar (Instant)

variable {ρ : Type} {db after : Database}

/-- Where a database keeps the rows of one kind. -/
structure Shelf (ρ : Type) where
  kind : EntityName
  wrap : ρ → Row
  rows : Database → List ρ
  put : List ρ → Database → Database
  wrap_inj : ∀ row other, wrap row = wrap other → row = other
  kind_wrap : ∀ row, (wrap row).key.1 = kind
  mem_rows : ∀ db row, wrap row ∈ db.rows ↔ row ∈ rows db
  table_rows : ∀ db, db.table kind = (rows db).map wrap
  rows_put : ∀ list db, rows (put list db) = list
  table_put : ∀ list db other, other ≠ kind → (put list db).table other = db.table other

def unitShelf : Shelf UnitRow where
  kind := .unit
  wrap := .unit
  rows := units
  put units db := { db with units }
  wrap_inj _ _ := Row.unit.inj
  kind_wrap _ := rfl
  mem_rows _ _ := mem_rows_unit
  table_rows _ := rfl
  rows_put _ _ := rfl
  table_put _ _ other hOther := by cases other <;> trivial

def formulationShelf : Shelf FormulationRow where
  kind := .formulation
  wrap := .formulation
  rows := formulations
  put formulations db := { db with formulations }
  wrap_inj _ _ := Row.formulation.inj
  kind_wrap _ := rfl
  mem_rows _ _ := mem_rows_formulation
  table_rows _ := rfl
  rows_put _ _ := rfl
  table_put _ _ other hOther := by cases other <;> trivial

def lawnServiceShelf : Shelf LawnServiceRow where
  kind := .lawnService
  wrap := .lawnService
  rows := lawnServices
  put lawnServices db := { db with lawnServices }
  wrap_inj _ _ := Row.lawnService.inj
  kind_wrap _ := rfl
  mem_rows _ _ := mem_rows_lawnService
  table_rows _ := rfl
  rows_put _ _ := rfl
  table_put _ _ other hOther := by cases other <;> trivial

def logShelf : Shelf LogRow where
  kind := .calibrationLog
  wrap := .log
  rows := logs
  put logs db := { db with logs }
  wrap_inj _ _ := Row.log.inj
  kind_wrap _ := rfl
  mem_rows _ _ := mem_rows_log
  table_rows _ := rfl
  rows_put _ _ := rfl
  table_put _ _ other hOther := by cases other <;> trivial

def recordShelf : Shelf RecordRow where
  kind := .calibrationRecord
  wrap := .record
  rows := records
  put records db := { db with records }
  wrap_inj _ _ := Row.record.inj
  kind_wrap _ := rfl
  mem_rows _ _ := mem_rows_record
  table_rows _ := rfl
  rows_put _ _ := rfl
  table_put _ _ other hOther := by cases other <;> trivial

/-! ### One row more -/

/-- A database holds one row more than before, and that row holds an entity. -/
def Adds (db after : Database) (item : Item) : Prop :=
  ∃ new : Row, after.rows.Perm (new :: db.rows) ∧ new.Tells item

/-- A row that is new in its table is new in the list. -/
private theorem rows_perm_of_table {kind : EntityName} {new : Row}
    (hOthers : ∀ other, other ≠ kind → after.table other = db.table other)
    (hTable : after.table kind = db.table kind ++ [new]) :
    after.rows.Perm (new :: db.rows) := by
  rw [List.perm_iff_count]
  intro row
  cases kind <;>
    simp only [rows, List.flatMap_cons, List.flatMap_nil, List.count_append, List.count_cons,
      List.count_nil, hTable, hOthers, ne_eq, reduceCtorEq, not_false_eq_true] <;>
    omega

theorem Shelf.adds (shelf : Shelf ρ) {new : ρ} {item : Item}
    (hTells : (shelf.wrap new).Tells item) :
    Adds db (shelf.put (shelf.rows db ++ [new]) db) item := by
  refine ⟨shelf.wrap new, rows_perm_of_table (shelf.table_put _ db) ?_, hTells⟩
  rw [shelf.table_rows, shelf.table_rows, shelf.rows_put, List.map_append, List.map_singleton]

theorem insertUnit_adds {unit : MeasureUnit}
    (hWrite : db.insertUnit unit = .ok after) :
    Adds db after (.unit unit) := by
  obtain ⟨-, rfl⟩ := insertUnit_eq_ok hWrite
  exact unitShelf.adds (UnitRow.tells fun _ => eq_of_readInstant_instantText)

theorem insertFormulation_adds {formulation : Formulation}
    (hWrite : db.insertFormulation formulation = .ok after) :
    Adds db after (.formulation formulation) := by
  obtain ⟨-, -, rfl⟩ := insertFormulation_eq_ok hWrite
  exact formulationShelf.adds (FormulationRow.tells fun _ => eq_of_readInstant_instantText)

theorem insertLawnService_adds {service : LawnService}
    (hWrite : db.insertLawnService service = .ok after) :
    Adds db after (.lawnService service) := by
  obtain ⟨-, -, -, -, rfl⟩ := insertLawnService_eq_ok hWrite
  exact lawnServiceShelf.adds (LawnServiceRow.tells fun _ => eq_of_readInstant_instantText)

theorem insertLog_adds {log : CalibrationLog}
    (hWrite : db.insertLog log = .ok after) :
    Adds db after (.log log) := by
  obtain ⟨-, -, rfl⟩ := insertLog_eq_ok hWrite
  exact logShelf.adds (LogRow.tells log)

theorem insertRecord_adds {record : CalibrationRecord}
    (hWrite : db.insertRecord record = .ok after) :
    Adds db after (.record record) := by
  obtain ⟨-, -, -, rfl⟩ := insertRecord_eq_ok hWrite
  exact recordShelf.adds (RecordRow.tells fun _ => eq_of_readInstant_instantText)

/-! ### One row in the place of another -/

/-- One row stands in the place of another that had its key and its time of creation; all others
are as they were. -/
structure Replaces (db after : Database) (old new : Row) : Prop where
  stored : old ∈ db.rows
  key : new.key = old.key
  createdAt : new.createdAt = old.createdAt
  others : after.rows = db.rows.map fun row => if row = old then new else row

/-- In a table, a row in the place of the one that is chosen. -/
private theorem map_changeRows_of_chosen {wrap : ρ → Row} {chosen : ρ → Bool} {change : ρ → ρ}
    {table : List ρ} (hWrap : ∀ row other, wrap row = wrap other → row = other) {old : ρ}
    (hChosen : ∀ row ∈ table, chosen row = true ↔ row = old) :
    (changeRows chosen change table).map wrap =
      (table.map wrap).map fun row => if row = wrap old then wrap (change old) else row := by
  rw [changeRows, List.map_map, List.map_map]
  refine List.map_congr_left fun row hRow => ?_
  simp only [Function.comp_apply]
  by_cases hOld : row = old
  · subst hOld
    rw [if_pos ((hChosen row hRow).2 rfl), if_pos rfl]
  · rw [if_neg fun hTrue => hOld ((hChosen row hRow).1 hTrue),
      if_neg fun hSame => hOld (hWrap row old hSame)]

private theorem replaces_of_table {old new : Row} (hStored : old ∈ db.rows)
    (hKey : new.key = old.key)
    (hCreated : new.createdAt = old.createdAt)
    (hOthers : ∀ kind, kind ≠ old.key.1 → after.table kind = db.table kind)
    (hTable : after.table old.key.1 =
      (db.table old.key.1).map fun row => if row = old then new else row) :
    Replaces db after old new := by
  have hTables : ∀ kind, after.table kind =
      (db.table kind).map fun row => if row = old then new else row := by
    intro kind
    by_cases hKind : kind = old.key.1
    · rw [hKind]
      exact hTable
    · rw [hOthers kind hKind]
      refine ((List.map_congr_left fun row hRow => if_neg ?_).trans (List.map_id _)).symm
      rintro rfl
      exact hKind (kind_of_mem_table hRow).symm
  refine ⟨hStored, hKey, hCreated, ?_⟩
  rw [rows, rows, List.map_flatMap]
  exact congrArg (fun table => List.flatMap table _) (funext hTables)

/-- The one row of a table that is chosen gives way to what the change makes of it. -/
theorem Shelf.replaces (shelf : Shelf ρ) {chosen : ρ → Bool} {change : ρ → ρ} {old : ρ}
    (hOld : old ∈ shelf.rows db) (hChosen : ∀ row ∈ shelf.rows db, chosen row = true ↔ row = old)
    (hKey : (shelf.wrap (change old)).key = (shelf.wrap old).key)
    (hCreated : (shelf.wrap (change old)).createdAt = (shelf.wrap old).createdAt) :
    Replaces db (shelf.put (changeRows chosen change (shelf.rows db)) db) (shelf.wrap old)
      (shelf.wrap (change old)) := by
  refine replaces_of_table ((shelf.mem_rows db old).2 hOld) hKey hCreated ?_ ?_
  · rw [shelf.kind_wrap]
    exact shelf.table_put _ db
  · rw [shelf.kind_wrap, shelf.table_rows, shelf.table_rows, shelf.rows_put]
    exact map_changeRows_of_chosen shelf.wrap_inj hChosen

/-- A row that is read as one entity gives way to a row that holds another. -/
def Overwrites (db after : Database) (stored item : Item) : Prop :=
  ∃ old new : Row, old.read = .ok stored ∧ Replaces db after old new ∧ new.Tells item

private theorem beq_key_iff {key : ρ → String} {table : List ρ} {old : ρ} {value : String}
    (hKeys : (table.map key).Nodup) (hOld : old ∈ table) (hKey : key old = value) :
    ∀ row ∈ table, (key row == value) = true ↔ row = old := by
  intro row hRow
  rw [beq_iff_eq, ← hKey]
  exact ⟨List.inj_on_of_nodup_map hKeys hRow hOld, congrArg key⟩

theorem Intact.isLiveLog_iff_eq (hIntact : Intact db) {old : LogRow} {id : String}
    (hOld : old ∈ db.logs) (hLive : isLiveLog id old = true) :
    ∀ row ∈ db.logs, isLiveLog id row = true ↔ row = old := by
  intro row hRow
  constructor
  · intro hOther
    have hSame : row.id = old.id :=
      (isLiveLog_iff.1 hOther).1.trans (isLiveLog_iff.1 hLive).1.symm
    exact List.inj_on_of_nodup_map hIntact.logIds hRow hOld hSame
  · rintro rfl
    exact hLive

/-- In a table whose rows are known by a column, the row of a value gives way to another. -/
theorem Shelf.overwrites (shelf : Shelf ρ) {column : ρ → String} {value : String} {change : ρ → ρ}
    {old : ρ} {stored item : Item} (hKeys : ((shelf.rows db).map column).Nodup)
    (hOld : old ∈ shelf.rows db) (hValue : column old = value)
    (hKey : (shelf.wrap (change old)).key = (shelf.wrap old).key)
    (hCreated : (shelf.wrap (change old)).createdAt = (shelf.wrap old).createdAt)
    (hRead : (shelf.wrap old).read = .ok stored) (hTells : (shelf.wrap (change old)).Tells item) :
    Overwrites db
      (shelf.put (changeRows (fun row => column row == value) change (shelf.rows db)) db)
      stored item :=
  ⟨_, _, hRead, shelf.replaces hOld (beq_key_iff hKeys hOld hValue) hKey hCreated, hTells⟩

theorem updateUnit_overwrites (hIntact : Intact db) {symbol : String} {stored unit : MeasureUnit}
    (hLoad : db.loadUnit symbol = .ok (some stored))
    (hWrite : db.updateUnit unit = .ok (true, after)) (hKey : unit.symbol = stored.symbol)
    (hCreated : unit.createdAt = stored.createdAt) :
    Overwrites db after (.unit stored) (.unit unit) := by
  obtain rfl : unit.symbol = symbol := hKey.trans (loadUnit_symbol hLoad)
  obtain ⟨row, hRow, hSymbol, hRead⟩ := loadUnit_eq_ok_some hLoad
  obtain rfl := (updateUnit_eq_ok hWrite).found
  have hStored : (Row.unit row).read = .ok (.unit stored) :=
    map_eq_ok_iff.2 ⟨stored, hRead, rfl⟩
  have hTells := @UnitRow.tells row.number row.createdAt unit fun created hTold =>
    (eq_of_readInstant (UnitRow.toUnit_eq_ok hRead).2 hTold).trans hCreated.symm
  exact unitShelf.overwrites hIntact.unitSymbols hRow hSymbol (congrArg (Prod.mk _) hSymbol.symm)
    (Eq.refl row.createdAt) hStored hTells

theorem updateFormulation_overwrites (hIntact : Intact db) {id : FormulationId}
    {stored formulation : Formulation} (hLoad : db.loadFormulation id = .ok (some stored))
    (hWrite : db.updateFormulation formulation = .ok (true, after))
    (hKey : formulation.id = stored.id) (hCreated : formulation.createdAt = stored.createdAt) :
    Overwrites db after (.formulation stored) (.formulation formulation) := by
  obtain rfl : formulation.id = id := hKey.trans (loadFormulation_id hLoad)
  obtain ⟨row, hRow, hId, hRead⟩ := loadFormulation_eq_ok_some hLoad
  obtain ⟨-, rfl⟩ := (updateFormulation_eq_ok hWrite).found
  have hStored : (Row.formulation row).read = .ok (.formulation stored) :=
    map_eq_ok_iff.2 ⟨stored, hRead, rfl⟩
  have hTells := @FormulationRow.tells row.number row.createdAt formulation fun created hTold =>
    (eq_of_readInstant (FormulationRow.toFormulation_eq_ok hRead).2 hTold).trans hCreated.symm
  exact formulationShelf.overwrites hIntact.formulationIds hRow hId (congrArg (Prod.mk _) hId.symm)
    (Eq.refl row.createdAt) hStored hTells

theorem updateLawnService_overwrites (hIntact : Intact db) {id : LawnServiceId}
    {stored service : LawnService} (hLoad : db.loadLawnService id = .ok (some stored))
    (hWrite : db.updateLawnService service = .ok (true, after)) (hKey : service.id = stored.id)
    (hCreated : service.createdAt = stored.createdAt) :
    Overwrites db after (.lawnService stored) (.lawnService service) := by
  obtain rfl : service.id = id := hKey.trans (loadLawnService_id hLoad)
  obtain ⟨row, hRow, hId, hRead⟩ := loadLawnService_eq_ok_some hLoad
  obtain ⟨-, -, -, rfl⟩ := (updateLawnService_eq_ok hWrite).found
  have hStored : (Row.lawnService row).read = .ok (.lawnService stored) :=
    map_eq_ok_iff.2 ⟨stored, hRead, rfl⟩
  have hTells := @LawnServiceRow.tells row.number row.createdAt service fun created hTold =>
    (eq_of_readInstant (LawnServiceRow.toLawnService_eq_ok hRead).2.2 hTold).trans hCreated.symm
  exact lawnServiceShelf.overwrites hIntact.lawnServiceIds hRow hId (congrArg (Prod.mk _) hId.symm)
    (Eq.refl row.createdAt) hStored hTells

theorem updateRecord_overwrites (hIntact : Intact db) {id : CalibrationRecordId}
    {stored record : CalibrationRecord} (hLoad : db.loadRecord id = .ok (some stored))
    (hWrite : db.updateRecord record = .ok (true, after)) (hKey : record.id = stored.id)
    (hCreated : record.createdAt = stored.createdAt) :
    Overwrites db after (.record stored) (.record record) := by
  obtain rfl : record.id = id := hKey.trans (loadRecord_id hLoad)
  obtain ⟨row, hRow, hId, hRead⟩ := loadRecord_eq_ok_some hLoad
  obtain ⟨-, -, rfl⟩ := (updateRecord_eq_ok hWrite).found
  have hStored : (Row.record row).read = .ok (.record stored) :=
    map_eq_ok_iff.2 ⟨stored, hRead, rfl⟩
  have hTells := @RecordRow.tells row.number row.createdAt record fun created hTold =>
    (eq_of_readInstant (RecordRow.toRecord_eq_ok hRead).2.2.1 hTold).trans hCreated.symm
  exact recordShelf.overwrites hIntact.recordIds hRow hId (congrArg (Prod.mk _) hId.symm)
    (Eq.refl row.createdAt) hStored hTells

/-- A log keeps its row and its other columns. -/
theorem updateLog_overwrites (hIntact : Intact db) {id : CalibrationLogId}
    {stored : CalibrationLog} {userId : UserId} {lawnServiceId : LawnServiceId} {moment : Instant}
    (hLoad : db.loadLog id = .ok (some stored))
    (hWrite : db.updateLog { stored with userId, lawnServiceId, updatedAt := moment } =
      .ok (true, after)) :
    Overwrites db after (.log stored)
      (.log { stored with userId, lawnServiceId, updatedAt := moment }) := by
  obtain rfl := loadLog_id hLoad
  obtain ⟨row, hRow, hLive, hRead⟩ := loadLog_eq_ok_some hLoad
  obtain ⟨-, rfl⟩ := (updateLog_eq_ok hWrite).found
  have hChosen := hIntact.isLiveLog_iff_eq hRow hLive
  obtain ⟨-, -, -, -, -, -, hCalibration, hRecords⟩ := LogRow.toLog_eq_ok hRead
  refine ⟨.log row, _, map_eq_ok_iff.2 ⟨stored, hRead, rfl⟩,
    logShelf.replaces hRow hChosen (Eq.refl (EntityName.calibrationLog, row.id))
      (Eq.refl row.createdAt), ?_⟩
  refine ⟨congrArg (Prod.mk _) (isLiveLog_iff.1 hLive).1, fun found hFound => ?_⟩
  change (Row.log _).read = .ok found at hFound
  rw [Row.read, map_eq_ok_iff] at hFound
  obtain ⟨value, hValue, rfl⟩ := hFound
  obtain ⟨hYear, rfl⟩ := (LogRow.toLog_change_iff hRead).1 hValue
  refine ⟨hYear, ?_, ?_, rfl⟩
  · rw [hCalibration]
    exact .none
  · rw [hRecords]
    exact .nil

/-- A log that is deleted keeps its key and its time of creation. -/
theorem deleteLog_replaces (hIntact : Intact db) {id : CalibrationLogId} {moment : Instant}
    (hWrite : db.deleteLog id moment = .ok (true, after)) :
    ∃ old new : Row, old.key = (.calibrationLog, id.text) ∧ Replaces db after old new := by
  obtain ⟨⟨row, hRow, hLive⟩, rfl⟩ := (deleteLog_eq_ok hWrite).found
  have hChosen := hIntact.isLiveLog_iff_eq hRow hLive
  exact ⟨.log row, _, congrArg (Prod.mk _) (isLiveLog_iff.1 hLive).1,
    logShelf.replaces hRow hChosen (Eq.refl (EntityName.calibrationLog, row.id))
      (Eq.refl row.createdAt)⟩

theorem Adds.has {item : Item} (hAdds : Adds db after item) : Has after item := by
  obtain ⟨new, hPerm, hTells⟩ := hAdds
  exact ⟨new, hPerm.mem_iff.2 List.mem_cons_self, hTells⟩

theorem Adds.mem_rows {item : Item} (hAdds : Adds db after item) {row : Row}
    (hRow : row ∈ db.rows) : row ∈ after.rows := by
  obtain ⟨new, hPerm, -⟩ := hAdds
  exact hPerm.mem_iff.2 (List.mem_cons_of_mem new hRow)

theorem Replaces.mem_rows {old new row : Row} (hReplaces : Replaces db after old new)
    (hRow : row ∈ db.rows) (hKey : row.key ≠ old.key) : row ∈ after.rows := by
  rw [hReplaces.others, List.mem_map]
  refine ⟨row, hRow, if_neg ?_⟩
  rintro rfl
  exact hKey rfl

/-- A change leaves all rows alone that have another key. -/
theorem Overwrites.mem_rows {stored item : Item} (hOverwrites : Overwrites db after stored item)
    {row : Row} (hRow : row ∈ db.rows) (hKey : row.key ≠ item.key) : row ∈ after.rows := by
  obtain ⟨old, new, -, hReplaces, hTells⟩ := hOverwrites
  refine hReplaces.mem_rows hRow ?_
  rw [← hReplaces.key, hTells.key]
  exact hKey

theorem Overwrites.has {stored item : Item} (hOverwrites : Overwrites db after stored item) :
    Has after item := by
  obtain ⟨old, new, -, hReplaces, hTells⟩ := hOverwrites
  have hNew : new ∈ db.rows.map fun row => if row = old then new else row :=
    List.mem_map.2 ⟨old, hReplaces.stored, if_pos rfl⟩
  exact ⟨new, hReplaces.others ▸ hNew, hTells⟩

/-- The deletion of a record takes out the row of its key and no other. -/
theorem deleteRecord_mem_rows {id : CalibrationRecordId}
    (hWrite : db.deleteRecord id = .ok (true, after)) {row : Row} (hRow : row ∈ db.rows)
    (hKey : row.key ≠ (.calibrationRecord, id.text)) : row ∈ after.rows := by
  obtain ⟨-, rfl⟩ := (deleteRecord_eq_ok hWrite).found
  cases row with
  | record row =>
      rw [mem_rows_record] at hRow ⊢
      have hId : row.id ≠ id.text := fun hSame => hKey (congrArg (Prod.mk _) hSame)
      exact List.mem_filter.2 ⟨hRow, bne_iff_ne.2 hId⟩
  | _ => simpa using hRow

end LawnCalibration.Store.Database
