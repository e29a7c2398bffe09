import ShortLinks.Keeper.Database
import ShortLinks.Keeper.File
import ShortLinks.Keeper.Memory

/-!
Keepers as registers of users.

* `Enrolled` — what a keeper may do with a user who registers: an address that is free is taken
  once and for all, and one that is taken asks for the password. Whatever is not answered with a
  new user changes nothing.
* `Enrolled.extends`, `Enrolled.ownAddress`, `Enrolled.recorded` — so a registration only adds to
  the register, every user stays under the own address, and who is answered is registered.
* `RegisteringKeeper` — a keeper with such a register. The keeper in memory, the keeper of two
  files and the database are such keepers.
-/

namespace ShortLinks

namespace User

@[simp] theorem ensureId_email (u : User) (fresh : String) :
    (u.ensureId fresh).email = u.email := by
  unfold ensureId
  split <;> rfl

@[simp] theorem ensureId_passwordHash (u : User) (fresh : String) :
    (u.ensureId fresh).passwordHash = u.passwordHash := by
  unfold ensureId
  split <;> rfl

@[simp] theorem fillEmail_passwordHash (u : User) (email : String) :
    (u.fillEmail email).passwordHash = u.passwordHash := by
  unfold fillEmail
  split <;> rfl

theorem admits_iff (stored : User) (passwordHash : String) :
    stored.admits passwordHash = true ↔ passwordHash = "" ∨ passwordHash = stored.passwordHash := by
  rw [admits, Bool.or_eq_true, String.isEmpty_iff, decide_eq_true_iff, eq_comm (b := passwordHash)]

end User

/-- An index of users lets an address in once, and asks for the password after that. -/
theorem UserIndex.insert_eq (index : UserIndex) {fresh email : String} {user own : User}
    (filled : (user.fillEmail email).ensureId fresh = own) :
    index.insert fresh email user =
      match index.byEmail[own.email]? with
      | some stored =>
          if stored.admits own.passwordHash then (.ok (.existing stored), index)
          else (.error (.credentialMismatch own.email), index)
      | none => (.ok (.created own), ⟨index.byEmail.insert own.email own⟩) := by
  subst filled
  unfold UserIndex.insert
  dsimp only
  rewrite [User.ensureId_email, User.ensureId_passwordHash]
  rfl

/-! ### Registers -/

section Registers

variable {σ : Type}

/-- What becomes of a register when this user, filled in, asks to be stored. -/
inductive Enrolled (registered : σ → String → Option User) (keeper : σ) (own : User) :
    Except Fault (Inserted User) × σ → Prop where
  | created {after : σ} (free : registered keeper own.email = none)
      (added : ∀ email, registered after email =
        if email = own.email then some own else registered keeper email) :
      Enrolled registered keeper own (.ok (.created own), after)
  | existing {stored : User} (taken : registered keeper own.email = some stored)
      (admitted : stored.admits own.passwordHash = true) :
      Enrolled registered keeper own (.ok (.existing stored), keeper)
  | mismatch {stored : User} (taken : registered keeper own.email = some stored)
      (refused : stored.admits own.passwordHash = false) :
      Enrolled registered keeper own (.error (.credentialMismatch own.email), keeper)
  | failed {fault : Fault} (free : registered keeper own.email = none) :
      Enrolled registered keeper own (.error fault, keeper)

variable {registered : σ → String → Option User} {keeper after : σ} {own : User}
  {answer : Except Fault (Inserted User)}

/-- A registration only adds to a register. -/
theorem Enrolled.extends (enrolled : Enrolled registered keeper own (answer, after))
    {email : String} {user : User} (known : registered keeper email = some user) :
    registered after email = some user := by
  cases enrolled with
  | created free added =>
      have other : email ≠ own.email := by
        rintro rfl
        exact nomatch free.symm.trans known
      rw [added, if_neg other, known]
  | existing => exact known
  | mismatch => exact known
  | failed => exact known

/-- A registration leaves every user under the own address. -/
theorem Enrolled.ownAddress (enrolled : Enrolled registered keeper own (answer, after))
    (keyed : ∀ email user, registered keeper email = some user → user.email = email)
    {email : String} {user : User} (known : registered after email = some user) :
    user.email = email := by
  cases enrolled with
  | created free added =>
      rw [added] at known
      split at known
      · next same =>
          cases known
          exact same.symm
      · exact keyed email user known
  | existing => exact keyed email user known
  | mismatch => exact keyed email user known
  | failed => exact keyed email user known

/-- Who is answered a fault has changed nothing. -/
theorem Enrolled.unchanged {fault : Fault}
    (enrolled : Enrolled registered keeper own (.error fault, after)) : after = keeper := by
  cases enrolled <;> rfl

/-- The user who is answered is registered. -/
theorem Enrolled.recorded {inserted : Inserted User}
    (enrolled : Enrolled registered keeper own (.ok inserted, after)) :
    registered after own.email = some inserted.record := by
  cases enrolled with
  | created free added => rw [added, if_pos rfl, Inserted.record]
  | existing taken => exact taken

/-- An address that is taken is answered with its user, or with a fault if the password is not the
right one. -/
theorem Enrolled.answer_of_taken {stored : User}
    (enrolled : Enrolled registered keeper own (answer, after))
    (taken : registered keeper own.email = some stored) :
    answer =
      if stored.admits own.passwordHash then .ok (.existing stored)
      else .error (.credentialMismatch own.email) := by
  cases enrolled with
  | created free => exact nomatch free.symm.trans taken
  | existing known admitted =>
      cases known.symm.trans taken
      rw [if_pos admitted]
  | mismatch known refused =>
      cases known.symm.trans taken
      rw [if_neg (Bool.eq_false_iff.mp refused)]
  | failed free => exact nomatch free.symm.trans taken

end Registers

/-- A keeper with a register of users. -/
class RegisteringKeeper (σ : Type) [Keeper σ] where
  registered : σ → String → Option User
  saveUser (fresh email : String) (user : User) (keeper : σ) :
    Enrolled registered keeper ((user.fillEmail email).ensureId fresh)
      (Keeper.saveUser fresh email user keeper)

/-! ### Keepers -/

theorem UserIndex.getElem?_empty {address : String} :
    ({} : UserIndex).byEmail[address]? = none :=
  Std.ExtTreeMap.getElem?_empty

/-- An index of users is a register. -/
theorem UserIndex.enrolled (index : UserIndex) (fresh email : String) (user : User) :
    Enrolled (fun index address => index.byEmail[address]?) index
      ((user.fillEmail email).ensureId fresh) (index.insert fresh email user) := by
  obtain ⟨own, filled⟩ : ∃ own, (user.fillEmail email).ensureId fresh = own := ⟨_, rfl⟩
  rw [filled, index.insert_eq filled]
  cases found : index.byEmail[own.email]? with
  | none =>
      refine .created found fun address => ?_
      rw [Std.ExtTreeMap.getElem?_insert]
      grind
  | some stored =>
      dsimp only
      split
      · next admitted => exact .existing found admitted
      · next refused => exact .mismatch found (Bool.eq_false_iff.mpr refused)

instance : RegisteringKeeper MemoryKeeper where
  registered keeper address := keeper.users.byEmail[address]?
  saveUser fresh email user keeper := by
    have enrolled := keeper.users.enrolled fresh email user
    simp only [Keeper.saveUser, MemoryKeeper.saveUser]
    generalize keeper.users.insert fresh email user = result at enrolled ⊢
    cases enrolled with
    | created free added => exact .created free added
    | existing taken admitted => exact .existing taken admitted
    | mismatch taken refused => exact .mismatch taken refused
    | failed free => exact .failed free

/-- A new user who is taken back leaves the index as it was. -/
theorem UserIndex.remove_of_added {index after : UserIndex} {own : User}
    (free : index.byEmail[own.email]? = none)
    (added : ∀ email, after.byEmail[email]? =
      if email = own.email then some own else index.byEmail[email]?) :
    after.remove own.email = index := by
  have same : after.byEmail.erase own.email = index.byEmail := by
    refine Std.ExtTreeMap.ext_getElem? fun email => ?_
    rw [Std.ExtTreeMap.getElem?_erase, added]
    grind
  unfold UserIndex.remove
  rw [same]

instance : RegisteringKeeper (FileKeeper × Disk) where
  registered keeper address := keeper.1.users.byEmail[address]?
  saveUser fresh email user := by
    rintro ⟨keeper, disk⟩
    have enrolled := keeper.users.enrolled fresh email user
    simp only [Keeper.saveUser, FileKeeper.saveUser]
    generalize keeper.users.insert fresh email user = result at enrolled ⊢
    cases enrolled with
    | created free added =>
        dsimp only
        split
        · exact .created free added
        · rw [UserIndex.remove_of_added free added]
          exact .failed free
    | existing taken admitted => exact .existing taken admitted
    | mismatch taken refused => exact .mismatch taken refused
    | failed free => exact .failed free

namespace DatabaseKeeper

/-- The first row with an address. -/
def registered (keeper : DatabaseKeeper) (address : String) : Option User :=
  match keeper.userRows with
  | .ok rows => rows.find? (·.email = address)
  | .error _ => none

variable {keeper : DatabaseKeeper} {rows more : List User} {own : User}

theorem registered_eq (read : keeper.userRows = .ok rows) (address : String) :
    keeper.registered address = rows.find? (·.email = address) := by
  rw [registered, read]

theorem email_of_registered {address : String} {user : User}
    (known : keeper.registered address = some user) : user.email = address := by
  unfold registered at known
  split at known
  · simpa using List.find?_some known
  · nomatch known

/-- Rows that could be read can be read after some were added. -/
theorem userRows_withUsers (read : keeper.userRows = .ok rows) :
    (keeper.withUsers more).forgetCounts.userRows = .ok more := by
  unfold userRows tableOf at read
  split at read
  · next isOpen =>
      simp only [userRows, tableOf, withUsers, forgetCounts, isOpen, if_true]
  · nomatch read

/-- A row is added only if its address is free. -/
theorem addUser_ok (added : Database.addUser rows own = .ok more) :
    more = rows ++ [own] ∧ rows.find? (·.email = own.email) = none := by
  unfold Database.addUser at added
  split at added
  · nomatch added
  · next free =>
      split at added
      · nomatch added
      · refine ⟨(Except.ok.inj added).symm, List.find?_eq_none.mpr fun user mem taken => free ?_⟩
        exact List.any_eq_true.mpr ⟨user, mem, taken⟩

theorem find?_append_single (free : rows.find? (·.email = own.email) = none) (address : String) :
    (rows ++ [own]).find? (·.email = address) =
      if address = own.email then some own else rows.find? (·.email = address) := by
  rw [List.find?_append]
  by_cases same : address = own.email
  · subst same
    simp [free]
  · simp [same, Ne.symm same]

instance : RegisteringKeeper DatabaseKeeper where
  registered := registered
  saveUser fresh email user keeper := by
    obtain ⟨own, filled⟩ : ∃ own, (user.fillEmail email).ensureId fresh = own := ⟨_, rfl⟩
    simp only [Keeper.saveUser, saveUser, filled]
    cases read : keeper.userRows with
    | error failure => exact .failed (by rw [registered, read])
    | ok rows =>
        have known := registered_eq read own.email
        dsimp only
        cases added : Database.addUser rows own with
        | ok more =>
            obtain ⟨rfl, free⟩ := addUser_ok added
            refine .created (known.trans free) fun address => ?_
            rw [registered_eq (userRows_withUsers read), registered_eq read,
              find?_append_single free]
        | error clash =>
            cases found : rows.find? (·.email = own.email) with
            | none => exact .failed (known.trans found)
            | some stored =>
                dsimp only
                split
                · next admitted => exact .existing (known.trans found) admitted
                · next refused =>
                    exact .mismatch (known.trans found) (Bool.eq_false_iff.mpr refused)

end DatabaseKeeper

end ShortLinks
