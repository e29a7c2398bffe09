import ShortLinks.Keeper.Basic
import ShortLinks.Keeper.LinkIndex
import ShortLinks.Keeper.UserIndex
import ShortLinks.Database.Tables
import ShortLinks.Database.Transient

/-!
The keeper of a database with two tables. The tables keep records unique; the keeper answers a
clash with the row in the way. A batch is one transaction: the rows in its way are collected
first, the entries are judged by an index of them, and what is left is inserted. Deletions are
done in transactions of a limited number of pairs each. Counts are remembered until the next
record is stored.

In which order the entries of a batch are taken, and the rows in its way come back, the keeper does
not say; this is left to its `ReadOrder`. A full reading gives the rows as they were inserted.
-/

namespace ShortLinks

/-- The orders in which the rows in the way of a batch are collected. They may differ from call to
call: the first argument is what a call draws by chance. -/
structure ReadOrder where
  /-- The entries of a batch in the order in which they are taken. -/
  entries : (String → String) → LinkMap → List (String × Link)
  entries_perm : ∀ fresh batch, (entries fresh batch).Perm batch.toList
  /-- The rows that a statement for these entries finds, in the order in which they come back. -/
  rows : (String → String) → List (String × Link) → List LinkRow → List LinkRow
  rows_perm : ∀ fresh part found, (rows fresh part found).Perm found

namespace ReadOrder

/-- Rows by their address if it is that of an entry, and then the others by their short link. -/
def byColumns (entries : List (String × Link)) (found : List LinkRow) : List LinkRow :=
  let (byUrl, others) := found.partition fun r => entries.any (·.2.originalUrl = r.originalUrl)
  byUrl.mergeSort (fun a b => decide (a.originalUrl ≤ b.originalUrl))
    ++ others.mergeSort (fun a b => decide (a.shortUrl ≤ b.shortUrl))

theorem byColumns_perm (entries : List (String × Link)) (found : List LinkRow) :
    (byColumns entries found).Perm found := by
  simp only [byColumns, List.partition_eq_filter_filter]
  exact ((List.mergeSort_perm _ _).append (List.mergeSort_perm _ _)).trans
    (List.filter_append_perm _ found)

/-- The orders of a database whose indexes are walked through one after the other. -/
def indexed : ReadOrder where
  entries _ batch := batch.toList
  entries_perm _ _ := .refl _
  rows _ := byColumns
  rows_perm _ := byColumns_perm

end ReadOrder

/-- A connection to a database, with the counts that are remembered. -/
structure DatabaseKeeper where
  /-- The name of the kind of database. -/
  backend : String
  database : Database := {}
  reads : ReadOrder := .indexed
  isOpen : Bool := true
  linkCount : Option Nat := none
  userCount : Option Nat := none

namespace DatabaseKeeper

/-! ### Tables -/

/-- A table, if the connection is open and the table is there. -/
def tableOf {α : Type} (k : DatabaseKeeper) (name : String) (table : Option (List α)) :
    Except DatabaseFailure (List α) :=
  if k.isOpen then
    match table with
    | some rows => .ok rows
    | none => .error (Database.missingTable name)
  else .error .acquireClosed

/-- The rows of the links. -/
def linkRows (k : DatabaseKeeper) : Except DatabaseFailure (List LinkRow) :=
  k.tableOf Database.linksTable k.database.links

/-- The rows of the users. -/
def userRows (k : DatabaseKeeper) : Except DatabaseFailure (List User) :=
  k.tableOf Database.usersTable k.database.users

/-- The keeper with other rows of links. -/
def withLinks (k : DatabaseKeeper) (rows : List LinkRow) : DatabaseKeeper :=
  { k with database := { k.database with links := some rows } }

/-- The keeper with other rows of users. -/
def withUsers (k : DatabaseKeeper) (rows : List User) : DatabaseKeeper :=
  { k with database := { k.database with users := some rows } }

/-- The keeper without remembered counts. -/
def forgetCounts (k : DatabaseKeeper) : DatabaseKeeper :=
  { k with linkCount := none, userCount := none }

/-- The keeper without a table, if the connection is open and the table is there. -/
def dropTable (k : DatabaseKeeper) (name : String) : Option DatabaseKeeper :=
  if !k.isOpen then none
  else if name = Database.linksTable && k.database.links.isSome then
    some { k with database := { k.database with links := none } }
  else if name = Database.usersTable && k.database.users.isSome then
    some { k with database := { k.database with users := none } }
  else none

/-- The answer to a failed statement. -/
def failed {α : Type} (context : String) (failure : DatabaseFailure) (k : DatabaseKeeper) :
    Except Fault α × DatabaseKeeper :=
  (.error (failure.within context), k)

/-! ### Lists in parts -/

/-- A list in parts of at most this many items; zero counts as one. -/
def parts {α : Type} (size : Nat) : List α → List (List α)
  | [] => []
  | x :: rest => (x :: rest.take (size - 1)) :: parts size (rest.drop (size - 1))
termination_by items => items.length
decreasing_by simp only [List.length_drop, List.length_cons]; omega

/-- How many rows are handled by one statement. -/
def statementSize : Nat := 500

/-- How many pairs are handled by one transaction of a deletion. -/
def transactionSize : Nat := 200

/-! ### Calls -/

/-- The links of rows under their keys; a later row replaces an earlier one. -/
def linkMapOf (rows : List LinkRow) : LinkMap :=
  rows.foldl (fun links row => links.insert row.toLink.key row.toLink) ∅

/-- All links. -/
def load : Call DatabaseKeeper LinkMap := fun k =>
  match k.linkRows with
  | .ok rows => (.ok (linkMapOf rows), k)
  | .error failure => failed "加载链接失败" failure k

/-- All users. -/
def loadUsers : Call DatabaseKeeper UserMap := fun k =>
  match k.userRows with
  | .ok rows => (.ok (rows.foldl (fun users user => users.insert user.email user) ∅), k)
  | .error failure => failed "加载用户失败" failure k

/-- Stores a link, or answers with the link in the way. -/
def save (fresh key : String) (link : Link) : Call DatabaseKeeper (Inserted Link) := fun k =>
  let link := (link.fillShortUrl key).ensureId fresh
  match k.linkRows with
  | .error failure => failed "保存链接失败" failure k
  | .ok rows =>
      match Database.addLink rows link.toRow with
      | .ok more => (.ok (.created link), (k.withLinks more).forgetCounts)
      | .error _ =>
          match Database.conflicting? rows link.originalUrl link.shortUrl with
          | some row => (.ok (.existing row.toLink), k)
          | none => (.error ⟨.conflict, s!"短链接已存在: {link.shortUrl}"⟩, k)

/-- Stores a user, or answers with the user who has the address. -/
def saveUser (fresh email : String) (user : User) : Call DatabaseKeeper (Inserted User) :=
  fun k =>
    let user := (user.fillEmail email).ensureId fresh
    match k.userRows with
    | .error failure => failed "保存用户失败" failure k
    | .ok rows =>
        match Database.addUser rows user with
        | .ok more => (.ok (.created user), (k.withUsers more).forgetCounts)
        | .error _ =>
            match rows.find? (·.email = user.email) with
            | some stored =>
                if stored.admits user.passwordHash then (.ok (.existing stored), k)
                else (.error (.credentialMismatch user.email), k)
            | none => (.error ⟨.conflict, s!"用户已存在: {user.email}"⟩, k)

/-- The rows in the way of a batch, collected statement by statement. -/
def rowsInTheWay (reads : ReadOrder) (rows : List LinkRow) (fresh : String → String)
    (batch : LinkMap) : List LinkRow :=
  (parts statementSize (reads.entries fresh batch)).flatMap fun part =>
    reads.rows fresh part (Database.conflictingAll rows (part.map (·.2.originalUrl))
      (part.map fun entry => (entry.2.fillShortUrl entry.1).shortUrl))

/-- Stores a batch in one transaction. -/
def saveBatch (fresh : String → String) (batch : LinkMap) : Call DatabaseKeeper BatchReport :=
  fun k =>
    if batch.isEmpty then (.ok {}, k)
    else if !k.isOpen then failed "开始事务失败" .acquireClosed k
    else
      match k.linkRows with
      | .error failure => failed "查询已有链接失败" failure k
      | .ok rows =>
          let index := LinkIndex.ofMap (linkMapOf (rowsInTheWay k.reads rows fresh batch))
          let r := index.insertBatch fresh batch
          match Database.addLinks rows (r.created.map Link.toRow) with
          | .ok more => (.ok r.report, (k.withLinks more).forgetCounts)
          | .error clash => failed "批量插入失败" clash.failure k

/-- The owner of each pair with the key that the short link names. -/
def keyPairs (requests : List DeletionRequest) : List (String × String) :=
  (requests.flatMap DeletionRequest.pairs).map fun pair => (pair.1, keyOf pair.2)

/-- Sets tombstone marks, transaction by transaction. -/
def updateBatch (requests : List DeletionRequest) : Call DatabaseKeeper Unit := fun k =>
  let pairs := keyPairs requests
  if pairs.isEmpty then (.ok (), k)
  else
    match k.linkRows with
    | .error failure => failed "设置删除标记失败" failure k
    | .ok rows => (.ok (), k.withLinks ((parts transactionSize pairs).foldl Database.markRows rows))

/-- The number of links, remembered if it is. -/
def countLinks : Call DatabaseKeeper Nat := fun k =>
  match k.linkCount with
  | some n => (.ok n, k)
  | none =>
      match k.linkRows with
      | .ok rows => (.ok rows.length, { k with linkCount := some rows.length })
      | .error failure => failed "统计失败" failure k

/-- The number of users, remembered if it is. -/
def countUsers : Call DatabaseKeeper Nat := fun k =>
  match k.userCount with
  | some n => (.ok n, k)
  | none =>
      match k.userRows with
      | .ok rows => (.ok rows.length, { k with userCount := some rows.length })
      | .error failure => failed "统计失败" failure k

instance : Keeper DatabaseKeeper where
  load := load
  loadUsers := loadUsers
  save := save
  saveUser := saveUser
  saveBatch := saveBatch
  updateBatch := updateBatch
  countLinks := countLinks
  countUsers := countUsers
  ping k := k.isOpen
  close k := (true, { k with isOpen := false })
  name k := k.backend

end DatabaseKeeper

end ShortLinks
