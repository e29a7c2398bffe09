import ShortLinks.Keeper.Unreliable
import ShortLinks.Proofs.Keeper.Registering
import ShortLinks.Proofs.Run
import ShortLinks.Store

/-!
Users who register through a store whose keeper may be out of reach.

* `Registration` — one call, with whether the keeper is out of reach when it is made; `met` says
  all that it can do: nothing at all, or what the keeper does to its register, of which the table
  learns the answer.
* `Held` — table and register know a user under the own address; `Held.next` keeps it so.
* `Held.guarded` — whoever comes later to this address is told of the user, or refused for the
  password.
* `first_registration_stays` — so the first registration of an address stays for good, and a call
  that fails changes nothing, for a keeper in memory, of two files and of a database.
-/

namespace ShortLinks

/-- A registration, and whether the keeper is out of reach when it is made. -/
structure Registration where
  down : Bool := false
  fresh : String
  email : String
  user : User

namespace Registration

/-- The user as the keeper is to store it. -/
def own (r : Registration) : User := (r.user.fillEmail r.email).ensureId r.fresh

/-- The address that a registration is for. -/
def address (r : Registration) : String := (r.user.fillEmail r.email).email

@[simp] theorem own_email (r : Registration) : r.own.email = r.address :=
  (r.user.fillEmail r.email).ensureId_email r.fresh

@[simp] theorem own_passwordHash (r : Registration) :
    r.own.passwordHash = r.user.passwordHash := by
  rw [own, User.ensureId_passwordHash, User.fillEmail_passwordHash]

variable {σ : Type} [Keeper σ]

/-- What a registration answers, the tables and the keeper afterwards. -/
def outcome (r : Registration) (state : Store × Unreliable σ) :
    Store.Outcome (Unreliable σ) (Inserted User) :=
  state.1.insertUser { state.2 with down := r.down } r.fresh r.email r.user

/-- Store and keeper after a registration. -/
def next (state : Store × Unreliable σ) (r : Registration) : Store × Unreliable σ :=
  ((r.outcome state).store, (r.outcome state).keeper)

/-- A registration of a stored user's address that reaches the keeper is told of this user, if it
brings no password or the right one, and is refused else. -/
def Guarded (stored : User) (state : Store × Unreliable σ) (r : Registration) : Prop :=
  r.down = false → r.address = stored.email →
    (r.outcome state).answer =
      if r.user.passwordHash = "" ∨ r.user.passwordHash = stored.passwordHash then
        .ok (.existing stored)
      else .error (.credentialMismatch stored.email)

/-- What a registration is good for. -/
structure Binding (state : Store × Unreliable σ) (r : Registration) : Prop where
  /-- A new user is found as it was answered, whatever registrations follow, and nobody else gets
  the address. -/
  stays : ∀ stored, (r.outcome state).answer = .ok (.created stored) → ∀ later,
    Throughout next (fun state => state.1.getUser stored.email = .ok stored) (next state r) later ∧
      Along next (Guarded stored) (next state r) later
  /-- Who is answered a fault has changed neither the tables nor what the keeper holds. -/
  harmless : ∀ fault, (r.outcome state).answer = .error fault →
    (next state r).1 = state.1 ∧ (next state r).2.inner = state.2.inner

variable [RegisteringKeeper σ] {state : Store × Unreliable σ} {r : Registration} {stored : User}

open RegisteringKeeper (registered)

/-! ### One registration -/

/-- The tables after the keeper has answered a registration. -/
def learn (store : Store) : Except Fault (Inserted User) → Store
  | .ok inserted =>
      { store with users := store.users.insert inserted.record.email inserted.record }
  | .error _ => store

/-- All that a registration can do. -/
inductive Met (state : Store × Unreliable σ) (r : Registration) :
    Store.Outcome (Unreliable σ) (Inserted User) → Prop where
  | away (down : r.down = true) :
      Met state r ⟨.error Unreliable.unreachable, state.1, ⟨state.2.inner, r.down⟩⟩
  | reached (up : r.down = false) {answer : Except Fault (Inserted User)} {after : σ}
      (enrolled : Enrolled registered state.2.inner r.own (answer, after)) :
      Met state r ⟨answer, learn state.1 answer, ⟨after, r.down⟩⟩

theorem met (state : Store × Unreliable σ) (r : Registration) : Met state r (r.outcome state) := by
  unfold outcome Store.insertUser
  simp only [Keeper.saveUser, Unreliable.guarded]
  by_cases down : r.down = true
  · rw [if_pos down]
    exact .away down
  · have up : r.down = false := Bool.eq_false_iff.mpr down
    have enrolled : Enrolled registered state.2.inner r.own
        (Keeper.saveUser r.fresh r.email r.user state.2.inner) :=
      RegisteringKeeper.saveUser r.fresh r.email r.user state.2.inner
    rw [if_neg down]
    generalize Keeper.saveUser r.fresh r.email r.user state.2.inner = result at enrolled ⊢
    obtain ⟨answer, after⟩ := result
    cases answer <;> exact .reached up enrolled

/-- A registration that is answered a fault changes nothing. -/
theorem unchanged_of_error {fault : Fault} (failed : (r.outcome state).answer = .error fault) :
    (next state r).1 = state.1 ∧ (next state r).2.inner = state.2.inner := by
  have met := met state r
  unfold next
  generalize r.outcome state = outcome at met failed ⊢
  cases met with
  | away => exact ⟨rfl, rfl⟩
  | reached up enrolled =>
      cases failed
      exact ⟨rfl, enrolled.unchanged⟩

/-! ### Registered users -/

/-- Every user of a register stands under the own address. -/
def Keyed (keeper : σ) : Prop :=
  ∀ email user, registered keeper email = some user → user.email = email

/-- Table and register know a user. -/
structure Held (stored : User) (state : Store × Unreliable σ) : Prop where
  keyed : Keyed state.2.inner
  kept : registered state.2.inner stored.email = some stored
  shown : state.1.users[stored.email]? = some stored

theorem Keyed.next (keyed : Keyed state.2.inner) (r : Registration) :
    Keyed (next state r).2.inner := by
  have met := met state r
  unfold Registration.next
  generalize r.outcome state = outcome at met ⊢
  cases met with
  | away => exact keyed
  | reached up enrolled => exact fun _ _ => enrolled.ownAddress keyed

theorem held_of_created (keyed : Keyed state.2.inner)
    (created : (r.outcome state).answer = .ok (.created stored)) : Held stored (next state r) := by
  have keyed_next := keyed.next r
  have met := met state r
  unfold next at keyed_next ⊢
  generalize r.outcome state = outcome at met created keyed_next ⊢
  cases met with
  | away => nomatch created
  | reached up enrolled =>
      cases created
      have known := enrolled.recorded
      have own : stored.email = r.own.email := keyed_next _ _ known
      exact ⟨keyed_next, own ▸ known, Std.ExtTreeMap.getElem?_insert_self⟩

/-- **No registration touches a user who is registered.** -/
theorem Held.next (held : Held stored state) (r : Registration) :
    Held stored (next state r) := by
  have keyed_next := held.keyed.next r
  have met := met state r
  unfold Registration.next at keyed_next ⊢
  generalize r.outcome state = outcome at met keyed_next ⊢
  cases met with
  | away => exact ⟨keyed_next, held.kept, held.shown⟩
  | @reached up answer after enrolled =>
      have kept := enrolled.extends held.kept
      refine ⟨keyed_next, kept, ?_⟩
      cases answer with
      | error fault => exact held.shown
      | ok inserted =>
          rw [learn, Std.ExtTreeMap.getElem?_insert]
          split
          · next same =>
              -- The user who was answered is the one who is registered under the address.
              have same : inserted.record.email = stored.email := by simpa using same
              have known := enrolled.recorded
              rw [← keyed_next _ _ known, same] at known
              exact known.symm.trans kept
          · exact held.shown

theorem Held.found (held : Held stored state) : state.1.getUser stored.email = .ok stored := by
  rw [Store.getUser, held.shown]

/-- **Who comes to a registered address is told of its user or refused for the password.** -/
theorem Held.guarded (held : Held stored state) (r : Registration) : Guarded stored state r := by
  intro up same
  have kept : registered state.2.inner r.own.email = some stored := by
    rw [own_email, same, held.kept]
  rw [← same, ← r.own_email, ← r.own_passwordHash]
  simp only [← stored.admits_iff]
  have met := met state r
  generalize r.outcome state = outcome at met ⊢
  cases met with
  | away down => exact nomatch up.symm.trans down
  | reached _ enrolled => exact enrolled.answer_of_taken kept

/-! ### Runs -/

theorem binding (keyed : Keyed state.2.inner) (r : Registration) : Binding state r where
  stays stored created later := by
    have held := held_of_created keyed created
    exact ⟨(throughout_of_step (fun _ step held _ => held.next step) held
        (along_true _ later)).imp fun _ held => held.found,
      along_of_step (fun _ step held => held.next step) (fun _ step held => held.guarded step) held⟩
  harmless _ := unchanged_of_error

/-- Registrations are binding on every register that holds users under their own addresses. -/
theorem binding_along (keyed : Keyed state.2.inner) (run : List Registration) :
    Along next Binding state run :=
  along_of_step (fun _ r keyed => keyed.next r) (fun _ r keyed => binding keyed r) keyed

end Registration

/-- **The first registration of an address stays**, for a keeper in memory and one of two files
without users, and for any database, however the calls fall. -/
theorem Store.first_registration_stays (store : Store) (down : Bool) (links : LinkIndex)
    (linksPath usersPath : String) (disk : Disk) (database : DatabaseKeeper)
    (run : List Registration) :
    Along Registration.next Registration.Binding
        (store, ⟨({ links := links } : MemoryKeeper), down⟩) run ∧
      Along Registration.next Registration.Binding
        (store, ⟨(({ linksPath, usersPath, links } : FileKeeper), disk), down⟩) run ∧
      Along Registration.next Registration.Binding (store, ⟨database, down⟩) run := by
  refine ⟨Registration.binding_along ?_ run, Registration.binding_along ?_ run,
    Registration.binding_along ?_ run⟩
  · exact fun email user known => nomatch UserIndex.getElem?_empty.symm.trans known
  · exact fun email user known => nomatch UserIndex.getElem?_empty.symm.trans known
  · exact fun email user => DatabaseKeeper.email_of_registered

end ShortLinks
