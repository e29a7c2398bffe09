import ShortLinks.Insertion
import ShortLinks.User.Basic

/-!
The index of stored users. The first registration of an address stays; a later one with a
password must have the same password.
-/

namespace ShortLinks

/-- May a registration with this password hash be answered with a stored user? -/
def User.admits (stored : User) (passwordHash : String) : Bool :=
  passwordHash.isEmpty || stored.passwordHash = passwordHash

/-- Stored users by address. -/
structure UserIndex where
  byEmail : UserMap := ∅

namespace UserIndex

/-- The number of users. -/
def size (index : UserIndex) : Nat := index.byEmail.size

/-- Stores a user under the own address, unless it is taken. The address given here only fills in
an empty one. -/
def insert (index : UserIndex) (fresh email : String) (user : User) :
    Except Fault (Inserted User) × UserIndex :=
  let user := user.fillEmail email
  match index.byEmail[user.email]? with
  | some stored =>
      if stored.admits user.passwordHash then (.ok (.existing stored), index)
      else (.error (.credentialMismatch user.email), index)
  | none =>
      let user := user.ensureId fresh
      (.ok (.created user), ⟨index.byEmail.insert user.email user⟩)

/-- Takes back the insertion of a user. -/
def remove (index : UserIndex) (email : String) : UserIndex := ⟨index.byEmail.erase email⟩

end UserIndex

end ShortLinks
