import ShortLinks.Keeper.Memory
import ShortLinks.Proofs.Keeper.Narrowed
import ShortLinks.Proofs.Keeper.Registering
import ShortLinks.Proofs.Run

/-!
The keeper in memory and the keeper of a database, call by call.

* `KeeperCall`, `KeeperPair` — the calls on a keeper, and two keepers that are called alike. Both
  draw the same fresh identities, which is what is left of them up to renaming.
* `KeeperCall.Splits` — what a call must not meet in memory: a link in the way that the database
  does not find or gives back changed, or an identity that is borne already.
* `Mirrors` — the database holds what the memory holds.
* `Mirrors.settled` — a call that does not split two such keepers is answered alike and leaves
  them so; a call that splits them is not.
* `interchangeable_iff` — so a sequence of calls is answered alike throughout exactly when no call
  splits the keepers.
-/

namespace ShortLinks

open LinkIndex (Lost entryLink)
open DatabaseKeeper (InTheWay Saving)

/-! ### Calls and answers -/

/-- A call on a keeper. -/
inductive KeeperCall where
  | save (fresh key : String) (link : Link)
  | saveUser (fresh email : String) (user : User)
  | saveBatch (fresh : String → String) (batch : LinkMap)
  | updateBatch (requests : List DeletionRequest)
  | load
  | loadUsers
  | countLinks
  | countUsers

/-- An answer of a keeper. -/
inductive KeeperAnswer where
  | link (inserted : Inserted Link)
  | user (inserted : Inserted User)
  | report (report : BatchReport)
  | done
  | links (table : LinkMap)
  | users (table : UserMap)
  | count (n : Nat)

namespace KeeperCall

/-- A call as an answer of any kind. -/
def answering {σ α : Type} (kind : α → KeeperAnswer) (call : Call σ α) : Call σ KeeperAnswer :=
  fun keeper => ((call keeper).1.map kind, (call keeper).2)

/-- Answer and keeper after a call. -/
def perform {σ : Type} [Keeper σ] : KeeperCall → Call σ KeeperAnswer
  | .save fresh key link => answering .link (Keeper.save fresh key link)
  | .saveUser fresh email user => answering .user (Keeper.saveUser fresh email user)
  | .saveBatch fresh batch => answering .report (Keeper.saveBatch fresh batch)
  | .updateBatch requests => answering (fun _ => .done) (Keeper.updateBatch requests)
  | .load => answering .links Keeper.load
  | .loadUsers => answering .users Keeper.loadUsers
  | .countLinks => answering .count Keeper.countLinks
  | .countUsers => answering .count Keeper.countUsers

/-- Does a call split a keeper in memory from a database that holds the same? -/
def Splits (memory : MemoryKeeper) : KeeperCall → Prop
  | .save fresh key link =>
      match (memory.links.insert fresh key link).1 with
      | .created own => ¬ memory.links.IdsFree [own]
      | .existing holder => Lost memory.links.byKey (InTheWay [(key, link)]) holder
  | .saveUser fresh email user =>
      match (memory.users.insert fresh email user).1 with
      | .ok (.created own) => ∃ (email : String) (stored : User),
          memory.users.byEmail[email]? = some stored ∧ stored.id = own.id
      | _ => False
  | .saveBatch fresh batch =>
      ¬ memory.links.IdsFree (memory.links.insertBatch fresh batch).created ∨
        ∃ skip ∈ (memory.links.insertBatch fresh batch).report.skipped,
          Lost memory.links.byKey (InTheWay batch.toList) skip.2
  | .load => ∃ (key : String) (link : Link),
      memory.links.byKey[key]? = some link ∧ link.owner = some ""
  | _ => False

end KeeperCall

/-- Are two answers the same, or faults of one kind? -/
def AnswersAlike : Except Fault KeeperAnswer → Except Fault KeeperAnswer → Prop
  | .ok answer, .ok other => answer = other
  | .error fault, .error other => fault.kind = other.kind
  | _, _ => False

/-- A keeper in memory and a keeper of a database. -/
abbrev KeeperPair := MemoryKeeper × DatabaseKeeper

namespace KeeperPair

/-- Both without links and users, the database in working order. -/
def opened (backend : String) (reads : ReadOrder) : KeeperPair :=
  ({}, { backend := backend, reads := reads })

/-- Both after one call. -/
def next (pair : KeeperPair) (call : KeeperCall) : KeeperPair :=
  ((call.perform pair.1).2, (call.perform pair.2).2)

/-- Do both answer a call alike? -/
def Alike (pair : KeeperPair) (call : KeeperCall) : Prop :=
  AnswersAlike (call.perform pair.1).1 (call.perform pair.2).1

end KeeperPair

/-! ### The same on both sides -/

/-- An index holds exactly these users, no two of whom share an address. -/
structure UserCopies (users : List User) (index : UserIndex) : Prop where
  holds : ∀ (email : String) (user : User),
    index.byEmail[email]? = some user ↔ user ∈ users ∧ user.email = email
  table : index.byEmail = users.foldl (fun table user => table.insert user.email user) ∅
  size : index.size = users.length

theorem UserCopies.find?_eq {users : List User} {index : UserIndex}
    (copies : UserCopies users index) (email : String) :
    users.find? (·.email = email) = index.byEmail[email]? := by
  refine Option.ext fun user => ⟨fun found => ?_, fun found => ?_⟩
  · exact (copies.holds email user).mpr
      ⟨List.mem_of_find?_eq_some found, by simpa using List.find?_some found⟩
  · obtain ⟨mem, own⟩ := (copies.holds email user).mp found
    cases first : users.find? (·.email = email) with
    | none => exact absurd own (by simpa using List.find?_eq_none.mp first user mem)
    | some other =>
        have present := (copies.holds email other).mpr
          ⟨List.mem_of_find?_eq_some first, by simpa using List.find?_some first⟩
        exact present.symm.trans found

theorem UserCopies.append {users : List User} {index : UserIndex} {own : User}
    (copies : UserCopies users index) (free : index.byEmail[own.email]? = none) :
    UserCopies (users ++ [own]) ⟨index.byEmail.insert own.email own⟩ where
  holds email user := by
    rw [Std.ExtTreeMap.getElem?_insert]
    have old := copies.holds email user
    by_cases same : own.email = email
    · subst same
      rw [free] at old
      simp only [Std.ReflCmp.compare_self, if_true, List.mem_append, List.mem_singleton]
      grind
    · rw [if_neg (by simpa using same), old, List.mem_append, List.mem_singleton]
      grind
  table := by rw [copies.table, List.foldl_append]; rfl
  size := by
    have absent : own.email ∉ index.byEmail := by
      rwa [Std.ExtTreeMap.mem_iff_isSome_getElem?, Option.not_isSome_iff_eq_none]
    have size : index.byEmail.size = users.length := copies.size
    simp [UserIndex.size, Std.ExtTreeMap.size_insert, absent, size]

/-- The database holds these links and users, and so does the memory. -/
structure Mirrors (links : List Link) (users : List User) (memory : MemoryKeeper)
    (database : DatabaseKeeper) : Prop where
  rows : database.Holds (links.map Link.toRow)
  userRows : database.database.users = some users
  copies : Copies links memory.links
  ids : (links.map (·.id)).Nodup
  userCopies : UserCopies users memory.users
  linkCount : ∀ n, database.linkCount = some n → n = links.length
  userCount : ∀ n, database.userCount = some n → n = users.length

/-- The database holds what the memory holds. -/
def KeeperPair.Mirrored (pair : KeeperPair) : Prop :=
  ∃ links users, Mirrors links users pair.1 pair.2

/-- A call splits two keepers and is not answered alike, or else it is and leaves them mirrored. -/
def KeeperPair.Settled (pair : KeeperPair) (call : KeeperCall) : Prop :=
  call.Splits pair.1 ∧ ¬ pair.Alike call ∨
    ¬ call.Splits pair.1 ∧ pair.Alike call ∧ (pair.next call).Mirrored

theorem mirrored_opened (backend : String) (reads : ReadOrder) :
    (KeeperPair.opened backend reads).Mirrored := by
  refine ⟨[], [], ⟨rfl, rfl⟩, rfl, .empty, .nil, ⟨?_, rfl, rfl⟩, ?_, ?_⟩
  · simp [KeeperPair.opened]
  · simp [KeeperPair.opened]
  · simp [KeeperPair.opened]

namespace Mirrors

variable {links : List Link} {users : List User} {memory : MemoryKeeper}
  {database : DatabaseKeeper}

/-! ### Links -/

theorem inTheWay_singleton (key : String) (link holder : Link) (fresh : String → String) :
    InTheWay [(key, link)] holder ↔
      holder.originalUrl = (entryLink fresh (key, link)).originalUrl ∨
        holder.shortUrl = (entryLink fresh (key, link)).shortUrl := by
  simp [InTheWay]

/-- New links come in on both sides, and the remembered counts are forgotten. -/
theorem withLinks (mirrors : Mirrors links users memory database) {more : List Link}
    {index : LinkIndex} (copies : Copies more index) (ids : (more.map (·.id)).Nodup) :
    Mirrors more users { memory with links := index }
      (database.withLinks (more.map Link.toRow)).forgetCounts where
  rows := ⟨mirrors.rows.isOpen, rfl⟩
  userRows := mirrors.userRows
  copies := copies
  ids := ids
  userCopies := mirrors.userCopies
  linkCount _ remembered := nomatch remembered
  userCount _ remembered := nomatch remembered

/-- No row of a free link has its address or its short link. -/
theorem rows_free (mirrors : Mirrors links users memory database) {own : Link}
    (free : memory.links.byKey[own.key]? = none)
    (unled : ¬ LinkMap.Leads memory.links.byKey own.originalUrl) :
    ∀ row ∈ links.map Link.toRow,
      row.originalUrl ≠ own.originalUrl ∧ row.shortUrl ≠ own.shortUrl := by
  rintro _ mem
  obtain ⟨link, stored, rfl⟩ := List.mem_map.mp mem
  refine ⟨fun url => unled (mirrors.copies.leads_iff.mpr ⟨link, stored, url⟩), fun short => ?_⟩
  have same : link.key = own.key := congrArg keyOf short
  rw [← same, mirrors.copies.mem_iff.mp stored] at free
  nomatch free

theorem idsFree_singleton (mirrors : Mirrors links users memory database) {own : Link} :
    memory.links.IdsFree [own] ↔ ∀ row ∈ links.map Link.toRow, row.id ≠ own.id := by
  rw [← mirrors.copies.nodup_ids_iff mirrors.ids, List.map_append, List.nodup_append]
  simp [mirrors.ids]

theorem settled_save (mirrors : Mirrors links users memory database) (fresh key : String)
    (link : Link) : KeeperPair.Settled (memory, database) (.save fresh key link) := by
  have inMemory := mirrors.copies.sound.insertion (fun _ => fresh) (key, link)
  have inRows := DatabaseKeeper.saving mirrors.rows (fun _ => fresh) (key, link)
  have way (holder : Link) := inTheWay_singleton key link holder fun _ => fresh
  unfold KeeperPair.Settled KeeperPair.Alike KeeperPair.next
  simp only [KeeperCall.Splits, KeeperCall.perform, KeeperCall.answering, Keeper.save,
    MemoryKeeper.save]
  generalize entryLink (fun _ => fresh) (key, link) = own at inMemory inRows way
  generalize memory.links.insert fresh key link = answer at inMemory
  generalize DatabaseKeeper.save fresh key link database = reply at inRows
  cases inMemory with
  | stored free unled =>
      have rowsFree := mirrors.rows_free free unled
      cases inRows with
      | created _ unborne =>
          have idsFree := mirrors.idsFree_singleton.mpr unborne
          have more := mirrors.withLinks (mirrors.copies.append free unled)
            ((mirrors.copies.nodup_ids_iff mirrors.ids).mpr idsFree)
          rw [List.map_append] at more
          exact .inr ⟨not_not.mpr idsFree, rfl, _, _, more⟩
      | existing stored inWay =>
          rcases inWay with url | ⟨short, -⟩
          · exact absurd url (rowsFree _ stored).1
          · exact absurd short (rowsFree _ stored).2
      | clash _ borne =>
          refine .inl ⟨fun idsFree => ?_, id⟩
          obtain ⟨row, stored, same⟩ := borne
          exact mirrors.idsFree_singleton.mp idsFree row stored same
  | @refused holder stored inWay =>
      have lost (rowsFree : ∀ row ∈ links.map Link.toRow,
          row.originalUrl ≠ own.originalUrl ∧ row.shortUrl ≠ own.shortUrl) :
          Lost memory.links.byKey (InTheWay [(key, link)]) holder := by
        have free := rowsFree _ (List.mem_map_of_mem (mirrors.copies.mem_iff.mpr stored))
        exact ⟨stored, fun known => (((way holder).mp known).elim free.1 free.2).elim⟩
      cases inRows with
      | created rowsFree => exact .inl ⟨lost rowsFree, fun alike => nomatch alike⟩
      | clash rowsFree => exact .inl ⟨lost rowsFree, id⟩
      | existing rowStored rowInWay =>
          obtain ⟨twin, twinStored, rfl⟩ := List.mem_map.mp rowStored
          have same := mirrors.copies.eq_existing_of_row (.refused stored inWay) twinStored rowInWay
          obtain rfl := Inserted.existing.inj (Prod.mk.inj same).1
          by_cases unnamed : holder.owner = some ""
          · refine .inl ⟨⟨stored, fun _ => unnamed⟩, fun alike => ?_⟩
            have back := Inserted.existing.inj (KeeperAnswer.link.inj alike)
            exact toRow_toLink_eq_self_iff.mp back.symm unnamed
          · have known := (way holder).mpr (rowInWay.imp id And.left)
            have back := toRow_toLink_eq_self_iff.mpr unnamed
            refine .inr ⟨fun lost => unnamed (lost.2 known), ?_, _, _, mirrors⟩
            exact congrArg (fun link => KeeperAnswer.link (.existing link)) back.symm

theorem settled_saveBatch (mirrors : Mirrors links users memory database)
    (fresh : String → String) (batch : LinkMap) :
    KeeperPair.Settled (memory, database) (.saveBatch fresh batch) := by
  unfold KeeperPair.Settled KeeperPair.Alike KeeperPair.next
  simp only [KeeperCall.Splits, KeeperCall.perform, KeeperCall.answering, Keeper.saveBatch,
    MemoryKeeper.saveBatch]
  by_cases blank : batch.isEmpty = true
  · have nothing : memory.links.insertBatch fresh batch = ⟨{}, [], memory.links⟩ := by
      rw [LinkIndex.insertBatch, Std.ExtTreeMap.isEmpty_iff.mp blank]
      rfl
    have reply : DatabaseKeeper.saveBatch fresh batch database = (.ok {}, database) := by
      rw [DatabaseKeeper.saveBatch, if_pos blank]
    rw [nothing, reply]
    refine .inr ⟨not_or.mpr ⟨not_not.mpr ⟨.nil, by simp⟩, by simp⟩, rfl, _, _, mirrors⟩
  · rw [DatabaseKeeper.saveBatch_eq mirrors.rows fresh (Bool.eq_false_iff.mpr blank)]
    obtain ⟨alike_iff, created_eq⟩ :=
      (mirrors.copies.narrowed_rowsInTheWay database.reads fresh batch).report_eq_iff fresh
        (LinkMap.keys_nodup batch)
    have more := mirrors.copies.insertEntries fresh batch.toList
    dsimp only [LinkIndex.insertBatch]
    generalize LinkIndex.insertEntries fresh (.ofMap _) batch.toList = part
      at alike_iff created_eq ⊢
    generalize LinkIndex.insertEntries fresh memory.links batch.toList = full
      at alike_iff created_eq more ⊢
    have ids_iff : ((links ++ full.created).map (·.id)).Nodup ↔ _ :=
      mirrors.copies.nodup_ids_iff mirrors.ids
    by_cases same : part.report = full.report
    · rw [created_eq same, same, more.addLinks_eq mirrors.ids]
      have clear : ¬ ∃ skip ∈ full.report.skipped,
          Lost memory.links.byKey (InTheWay batch.toList) skip.2 := by
        rintro ⟨skip, mem, lost⟩
        exact alike_iff.mp same skip mem lost
      by_cases idsFree : memory.links.IdsFree full.created
      · have ids := ids_iff.mpr idsFree
        rw [if_pos ids]
        exact .inr ⟨not_or.mpr ⟨not_not.mpr idsFree, clear⟩, rfl, _, _, mirrors.withLinks more ids⟩
      · rw [if_neg (mt ids_iff.mp idsFree)]
        exact .inl ⟨.inl idsFree, id⟩
    · have lost : ∃ skip ∈ full.report.skipped,
          Lost memory.links.byKey (InTheWay batch.toList) skip.2 := by
        by_contra clear
        exact same (alike_iff.mpr fun skip mem lost => clear ⟨skip, mem, lost⟩)
      refine .inl ⟨.inr lost, fun alike => ?_⟩
      -- The database answers with the other report, or with a fault.
      cases added : Database.addLinks (links.map Link.toRow) (part.created.map Link.toRow) with
      | ok rows =>
          rw [added] at alike
          exact same (KeeperAnswer.report.inj alike).symm
      | error clash =>
          rw [added] at alike
          exact alike

theorem settled_updateBatch (mirrors : Mirrors links users memory database)
    (requests : List DeletionRequest) :
    KeeperPair.Settled (memory, database) (.updateBatch requests) := by
  have reply := DatabaseKeeper.updateBatch_eq mirrors.rows
    (by rw [List.map_map]; exact mirrors.ids) requests
  unfold KeeperPair.Settled KeeperPair.Alike KeeperPair.next
  simp only [KeeperCall.Splits, KeeperCall.perform, KeeperCall.answering, Keeper.updateBatch,
    MemoryKeeper.updateBatch, reply, Copies.marked_rows]
  refine .inr ⟨id, rfl, links.map (Copies.deletedBy requests), users, ?_⟩
  exact
  { rows := ⟨mirrors.rows.isOpen, rfl⟩
    userRows := mirrors.userRows
    copies := mirrors.copies.tombstone requests
    ids := by simpa [Function.comp_def] using mirrors.ids
    userCopies := mirrors.userCopies
    linkCount := fun n remembered => by rw [List.length_map, mirrors.linkCount n remembered]
    userCount := mirrors.userCount }

theorem settled_load (mirrors : Mirrors links users memory database) :
    KeeperPair.Settled (memory, database) .load := by
  have reply : DatabaseKeeper.load database
      = (.ok (DatabaseKeeper.linkMapOf (links.map Link.toRow)), database) := by
    rw [DatabaseKeeper.load, mirrors.rows.linkRows]
  have same_iff := mirrors.copies.linkMapOf_eq_iff
  unfold KeeperPair.Settled KeeperPair.Alike KeeperPair.next
  simp only [KeeperCall.Splits, KeeperCall.perform, KeeperCall.answering, Keeper.load, reply]
  by_cases named : ∃ (key : String) (link : Link),
      memory.links.byKey[key]? = some link ∧ link.owner = some ""
  · refine .inl ⟨named, fun alike => ?_⟩
    obtain ⟨key, link, found, unnamed⟩ := named
    exact same_iff.mp (KeeperAnswer.links.inj alike).symm key link found unnamed
  · have same := same_iff.mpr fun key link found unnamed => named ⟨key, link, found, unnamed⟩
    exact .inr ⟨named, congrArg KeeperAnswer.links same.symm, _, _, mirrors⟩

theorem settled_countLinks (mirrors : Mirrors links users memory database) :
    KeeperPair.Settled (memory, database) .countLinks := by
  unfold KeeperPair.Settled KeeperPair.Alike KeeperPair.next
  simp only [KeeperCall.Splits, KeeperCall.perform, KeeperCall.answering, Keeper.countLinks,
    DatabaseKeeper.countLinks, mirrors.rows.linkRows, mirrors.copies.size_eq]
  cases remembered : database.linkCount with
  | some n =>
      rw [mirrors.linkCount n remembered]
      exact .inr ⟨id, rfl, _, _, mirrors⟩
  | none =>
      refine .inr ⟨id, by simp [AnswersAlike, Except.map], links, users, ?_⟩
      exact { mirrors with rows := ⟨mirrors.rows.isOpen, mirrors.rows.links⟩, linkCount := by simp }

/-! ### Users -/

theorem userRows_eq (mirrors : Mirrors links users memory database) :
    database.userRows = .ok users := by
  simp [DatabaseKeeper.userRows, DatabaseKeeper.tableOf, mirrors.rows.isOpen, mirrors.userRows]

theorem settled_loadUsers (mirrors : Mirrors links users memory database) :
    KeeperPair.Settled (memory, database) .loadUsers := by
  have reply : DatabaseKeeper.loadUsers database
      = (.ok (users.foldl (fun table user => table.insert user.email user) ∅), database) := by
    rw [DatabaseKeeper.loadUsers, mirrors.userRows_eq]
  unfold KeeperPair.Settled KeeperPair.Alike KeeperPair.next
  simp only [KeeperCall.Splits, KeeperCall.perform, KeeperCall.answering, Keeper.loadUsers, reply]
  exact .inr ⟨id, congrArg KeeperAnswer.users mirrors.userCopies.table, _, _, mirrors⟩

theorem settled_countUsers (mirrors : Mirrors links users memory database) :
    KeeperPair.Settled (memory, database) .countUsers := by
  unfold KeeperPair.Settled KeeperPair.Alike KeeperPair.next
  simp only [KeeperCall.Splits, KeeperCall.perform, KeeperCall.answering, Keeper.countUsers,
    DatabaseKeeper.countUsers, mirrors.userRows_eq, mirrors.userCopies.size]
  cases remembered : database.userCount with
  | some n =>
      rw [mirrors.userCount n remembered]
      exact .inr ⟨id, rfl, _, _, mirrors⟩
  | none =>
      refine .inr ⟨id, by simp [AnswersAlike, Except.map], links, users, ?_⟩
      exact { mirrors with rows := ⟨mirrors.rows.isOpen, mirrors.rows.links⟩, userCount := by simp }

/-- A new user comes in on both sides, and the remembered counts are forgotten. -/
theorem withUser (mirrors : Mirrors links users memory database) {own : User}
    (free : memory.users.byEmail[own.email]? = none) :
    Mirrors links (users ++ [own])
      { memory with users := ⟨memory.users.byEmail.insert own.email own⟩ }
      (database.withUsers (users ++ [own])).forgetCounts where
  rows := ⟨mirrors.rows.isOpen, mirrors.rows.links⟩
  userRows := rfl
  copies := mirrors.copies
  ids := mirrors.ids
  userCopies := mirrors.userCopies.append free
  linkCount _ remembered := nomatch remembered
  userCount _ remembered := nomatch remembered

/-- What saving a user does, if no user has the address. -/
theorem saveUser_of_free (mirrors : Mirrors links users memory database) {fresh email : String}
    {user : User} {own : User} (filled : (user.fillEmail email).ensureId fresh = own)
    (free : memory.users.byEmail[own.email]? = none) :
    DatabaseKeeper.saveUser fresh email user database =
      if users.any (·.id = own.id) then
        (.error ⟨.conflict, s!"用户已存在: {own.email}"⟩, database)
      else (.ok (.created own), (database.withUsers (users ++ [own])).forgetCounts) := by
  have unknown := mirrors.userCopies.find?_eq own.email
  rw [free] at unknown
  have noEmail : users.any (·.email = own.email) = false := by
    simpa using List.find?_eq_none.mp unknown
  simp only [DatabaseKeeper.saveUser, filled, mirrors.userRows_eq, Database.addUser, noEmail]
  by_cases borne : users.any (·.id = own.id) = true
  · simp [borne, unknown]
  · simp [borne]

/-- What saving a user does, if this user has the address. -/
theorem saveUser_of_taken (mirrors : Mirrors links users memory database) {fresh email : String}
    {user own stored : User} (filled : (user.fillEmail email).ensureId fresh = own)
    (found : memory.users.byEmail[own.email]? = some stored) :
    DatabaseKeeper.saveUser fresh email user database =
      if stored.admits own.passwordHash then (.ok (.existing stored), database)
      else (.error (.credentialMismatch own.email), database) := by
  have known := mirrors.userCopies.find?_eq own.email
  rw [found] at known
  have taken : users.any (·.email = own.email) = true :=
    List.any_eq_true.mpr
      ⟨stored, List.mem_of_find?_eq_some known, by simpa using List.find?_some known⟩
  simp [DatabaseKeeper.saveUser, filled, mirrors.userRows_eq, Database.addUser, taken, known]

theorem settled_saveUser (mirrors : Mirrors links users memory database) (fresh email : String)
    (user : User) : KeeperPair.Settled (memory, database) (.saveUser fresh email user) := by
  unfold KeeperPair.Settled KeeperPair.Alike KeeperPair.next
  simp only [KeeperCall.Splits, KeeperCall.perform, KeeperCall.answering, Keeper.saveUser,
    MemoryKeeper.saveUser]
  obtain ⟨own, filled⟩ : ∃ own, (user.fillEmail email).ensureId fresh = own := ⟨_, rfl⟩
  have inMemory := memory.users.insert_eq filled
  cases found : memory.users.byEmail[own.email]? with
  | none =>
      rw [found] at inMemory
      rw [mirrors.saveUser_of_free filled found, inMemory]
      by_cases borne : users.any (·.id = own.id) = true
      · rw [if_pos borne]
        obtain ⟨stored, mem, bears⟩ := List.any_eq_true.mp borne
        exact .inl ⟨⟨stored.email, stored, (mirrors.userCopies.holds _ _).mpr ⟨mem, rfl⟩,
          by simpa using bears⟩, id⟩
      · rw [if_neg borne]
        refine .inr ⟨?_, rfl, _, _, mirrors.withUser found⟩
        rintro ⟨address, stored, present, bears⟩
        exact borne (List.any_eq_true.mpr
          ⟨stored, ((mirrors.userCopies.holds _ _).mp present).1, by simpa using bears⟩)
  | some stored =>
      rw [found] at inMemory
      rw [mirrors.saveUser_of_taken filled found, inMemory]
      dsimp only
      by_cases admits : stored.admits own.passwordHash = true
      · rw [if_pos admits, if_pos admits]
        exact .inr ⟨id, rfl, _, _, mirrors⟩
      · rw [if_neg admits, if_neg admits]
        exact .inr ⟨id, rfl, _, _, mirrors⟩

end Mirrors

/-! ### Sequences of calls -/

namespace KeeperPair

/-- **One call** on two keepers that hold the same. -/
theorem Mirrored.settled {pair : KeeperPair} (mirrored : pair.Mirrored) (call : KeeperCall) :
    pair.Settled call := by
  obtain ⟨links, users, mirrors⟩ := mirrored
  cases call with
  | save fresh key link => exact mirrors.settled_save fresh key link
  | saveUser fresh email user => exact mirrors.settled_saveUser fresh email user
  | saveBatch fresh batch => exact mirrors.settled_saveBatch fresh batch
  | updateBatch requests => exact mirrors.settled_updateBatch requests
  | load => exact mirrors.settled_load
  | loadUsers => exact mirrors.settled_loadUsers
  | countLinks => exact mirrors.settled_countLinks
  | countUsers => exact mirrors.settled_countUsers

/-- **A keeper in memory and an empty database are interchangeable** for a sequence of calls exactly
when no call splits them. -/
theorem interchangeable_iff (backend : String) (calls : List KeeperCall) :
    Along next Alike (opened backend reads) calls ↔
      Along next (fun pair call => ¬ call.Splits pair.1) (opened backend reads) calls := by
  have alike_iff (pair : KeeperPair) (call : KeeperCall) (mirrored : Mirrored pair) :
      Alike pair call ↔ ¬ call.Splits pair.1 := by
    rcases mirrored.settled call with ⟨splits, unlike⟩ | ⟨unsplit, alike, -⟩
    · exact iff_of_false unlike (not_not.mpr splits)
    · exact iff_of_true alike unsplit
  have stays (pair : KeeperPair) (call : KeeperCall) (mirrored : Mirrored pair)
      (unsplit : ¬ call.Splits pair.1) : Mirrored (next pair call) := by
    rcases mirrored.settled call with ⟨splits, -⟩ | ⟨-, -, after⟩
    · exact absurd splits unsplit
    · exact after
  exact along_congr alike_iff stays (mirrored_opened backend reads)

/-- Two links with one key, of which the first is written as the key. -/
def bareText : Link := { shortUrl := "abc", originalUrl := "u1" }

/-- The second is written as a full address. -/
def fullText : Link := { shortUrl := "http://h.io/abc", originalUrl := "u2" }

/-- The memory answers the second with the first, and the database stores it. -/
theorem fullText_splits :
    ((next (opened "sqlite" .indexed) (.save "1" "abc" bareText)).1.links.insert "2" "x" fullText).1
        = .existing (bareText.withId "1") ∧
      (DatabaseKeeper.save "2" "x" fullText
          (next (opened "sqlite" .indexed) (.save "1" "abc" bareText)).2).1
        = .ok (.created (fullText.withId "2")) ∧
      ¬ Along next Alike (opened "sqlite" .indexed)
        [.save "1" "abc" bareText, .save "2" "x" fullText] := by
  have inMemory :
      ((next (opened "sqlite" .indexed) (.save "1" "abc" bareText)).1.links.insert
          "2" "x" fullText).1
        = .existing (bareText.withId "1") := by decide +kernel
  have inRows : (DatabaseKeeper.save "2" "x" fullText
      (next (opened "sqlite" .indexed) (.save "1" "abc" bareText)).2).1
        = .ok (.created (fullText.withId "2")) := by rfl
  refine ⟨inMemory, inRows, fun ⟨_, second, _⟩ => ?_⟩
  change AnswersAlike
    (.ok (.link ((next (opened "sqlite" .indexed) (.save "1" "abc" bareText)).1.links.insert "2" "x"
      fullText).1))
    ((DatabaseKeeper.save "2" "x" fullText
      (next (opened "sqlite" .indexed) (.save "1" "abc" bareText)).2).1.map .link) at second
  rw [inMemory, inRows] at second
  nomatch second

end KeeperPair

end ShortLinks
