import Mathlib
import MyFundi.Foundation.Keyed

/-!
# The keychain wrapper

The system's keychain holds generic passwords, told apart by service and account, and may
refuse any call, as it does while the device is locked; a call refused changes nothing.
The wrapper stores the value of a key under its own service, with the UTF-8 bytes of the
key as the account.
-/

namespace MyFundi

open Foundation

/-- When an item can be read, as the wrapper passes it on to the system. -/
inductive KeychainItemAccessibility where
  | afterFirstUnlock
  | afterFirstUnlockThisDeviceOnly
  | always
  | whenPasscodeSetThisDeviceOnly
  | alwaysThisDeviceOnly
  | whenUnlocked
  | whenUnlockedThisDeviceOnly
  deriving DecidableEq

namespace SecItem

/-- A generic password of the app's access group. -/
structure Item where
  service : String
  account : ByteArray
  generic : ByteArray
  accessible : KeychainItemAccessibility
  valueData : ByteArray

/-- What tells generic passwords apart. -/
structure PrimaryKey where
  service : String
  account : ByteArray
  deriving DecidableEq

/-- The primary key of a generic password. -/
def Item.primaryKey (item : Item) : PrimaryKey :=
  ⟨item.service, item.account⟩

/-- The app's access group: no two items have the same primary key. -/
abbrev Keychain := Keyed Item.primaryKey

/-- The attributes that an item must have; those not given are not asked for. -/
structure Query where
  service : String
  account : Option ByteArray
  generic : Option ByteArray
  accessible : Option KeychainItemAccessibility

/-- An item matches if it has every attribute the query gives. -/
def Query.matching (query : Query) (item : Item) : Bool :=
  item.service = query.service ∧ (∀ account ∈ query.account, item.account = account) ∧
    (∀ generic ∈ query.generic, item.generic = generic) ∧
    ∀ accessible ∈ query.accessible, item.accessible = accessible

/-- What an update does to an item. -/
def Query.change (query : Query) (valueData : ByteArray) (item : Item) : Item :=
  if query.matching item then { item with valueData := valueData } else item

/-- An update changes no primary key. -/
theorem Query.primaryKey_change (query : Query) (valueData : ByteArray) (item : Item) :
    (query.change valueData item).primaryKey = item.primaryKey := by
  rw [Query.change]
  split <;> rfl

/-- What the system answers. `refused` stands for every status but the other three. -/
inductive OSStatus where
  | success
  | duplicateItem
  | itemNotFound
  | refused
  deriving DecidableEq

/-- `SecItemAdd`. An item whose primary key is taken is not added. -/
def add (refused : Bool) (keychain : Keychain) (item : Item) : OSStatus × Keychain :=
  if refused then (.refused, keychain)
  else if fresh : item.primaryKey ∉ keychain.items.map Item.primaryKey then
    (.success, keychain.insert item fresh)
  else (.duplicateItem, keychain)

/-- `SecItemUpdate`. Every item that matches is given the new value. -/
def update (refused : Bool) (keychain : Keychain) (query : Query) (valueData : ByteArray) :
    OSStatus × Keychain :=
  if refused then (.refused, keychain)
  else if keychain.items.any query.matching then
    (.success, keychain.modify (query.change valueData) (query.primaryKey_change valueData))
  else (.itemNotFound, keychain)

/-- `SecItemDelete`. Every item that matches is removed. -/
def delete (refused : Bool) (keychain : Keychain) (query : Query) : OSStatus × Keychain :=
  if refused then (.refused, keychain)
  else if keychain.items.any query.matching then
    (.success, keychain.filter fun item => !query.matching item)
  else (.itemNotFound, keychain)

/-- An item with a new primary key is added. -/
theorem add_of_fresh {keychain : Keychain} {item : Item}
    (fresh : item.primaryKey ∉ keychain.items.map Item.primaryKey) :
    add false keychain item = (.success, keychain.insert item fresh) :=
  dif_pos fresh

/-- An item whose primary key is taken is a duplicate. -/
theorem add_of_taken {keychain : Keychain} {item : Item}
    (taken : item.primaryKey ∈ keychain.items.map Item.primaryKey) :
    add false keychain item = (.duplicateItem, keychain) :=
  dif_neg (not_not.mpr taken)

/-- An update of something changes what matches and succeeds. -/
theorem update_of_any {keychain : Keychain} {query : Query} (valueData : ByteArray)
    (any : keychain.items.any query.matching = true) :
    update false keychain query valueData = (.success, keychain.modify (query.change valueData)
      (query.primaryKey_change valueData)) :=
  if_pos any

/-- A removal of something removes what matches and succeeds. -/
theorem delete_of_any {keychain : Keychain} {query : Query}
    (any : keychain.items.any query.matching = true) :
    delete false keychain query = (.success, keychain.filter fun item => !query.matching item) :=
  if_pos any

/-- An update of nothing fails. -/
theorem update_of_not_any {keychain : Keychain} {query : Query} (valueData : ByteArray)
    (none : keychain.items.any query.matching = false) :
    update false keychain query valueData = (.itemNotFound, keychain) := by
  rw [update, none]
  rfl

/-- A removal of nothing fails. -/
theorem delete_of_not_any {keychain : Keychain} {query : Query}
    (none : keychain.items.any query.matching = false) :
    delete false keychain query = (.itemNotFound, keychain) := by
  rw [delete, none]
  rfl

/-- One item that matches, if the status is success. -/
def copyMatching (refused : Bool) (keychain : Keychain) (query : Query) : Option Item :=
  if refused then none else keychain.items.find? query.matching

end SecItem

open SecItem

/-- A wrapper keeps its keys under the name of its service. -/
structure KeychainWrapper where
  serviceName : String

namespace KeychainWrapper

variable (wrapper : KeychainWrapper)

/-- The query for a key. Without an accessibility none is asked for, although the source's
comment names `whenUnlocked` as the default. -/
def setupKeychainQueryDictionary (key : String)
    (accessibility : Option KeychainItemAccessibility) : Query where
  service := wrapper.serviceName
  account := some key.toUTF8
  generic := some key.toUTF8
  accessible := accessibility

/-- The bytes stored under a key. -/
def data (refused : Bool) (keychain : Keychain) (key : String)
    (accessibility : Option KeychainItemAccessibility) : Option ByteArray :=
  (copyMatching refused keychain (wrapper.setupKeychainQueryDictionary key accessibility)).map
    Item.valueData

/-- The text stored under a key, if the bytes are UTF-8. -/
def string (refused : Bool) (keychain : Keychain) (key : String)
    (accessibility : Option KeychainItemAccessibility) : Option String :=
  (wrapper.data refused keychain key accessibility).bind String.fromUTF8?

/-- Whether a key has a value: whether its bytes can be read. -/
def hasValue (refused : Bool) (keychain : Keychain) (key : String)
    (accessibility : Option KeychainItemAccessibility) : Bool :=
  (wrapper.data refused keychain key accessibility).isSome

/-- The accessibility with which a key was stored. -/
def accessibilityOfKey (refused : Bool) (keychain : Keychain) (key : String) :
    Option KeychainItemAccessibility :=
  (copyMatching refused keychain (wrapper.setupKeychainQueryDictionary key none)).map
    Item.accessible

/-- Give the key's item a new value. An item stored with another accessibility than the one
given does not match, so it keeps its value and the result is `false`. -/
def update (refused : Bool) (keychain : Keychain) (value : ByteArray) (key : String)
    (accessibility : Option KeychainItemAccessibility) : Bool × Keychain :=
  let (status, updated) := SecItem.update refused keychain
    (wrapper.setupKeychainQueryDictionary key accessibility) value
  (status = .success, updated)

/-- The item that `set` adds; without an accessibility it is protected while the device is
locked. -/
def addedItem (value : ByteArray) (key : String)
    (accessibility : Option KeychainItemAccessibility) : Item where
  service := wrapper.serviceName
  account := key.toUTF8
  generic := key.toUTF8
  accessible := accessibility.getD .whenUnlocked
  valueData := value

/-- The system may refuse to add the item, or to update the one that is there. -/
def setData (refusedAdd refusedUpdate : Bool) (keychain : Keychain) (value : ByteArray)
    (key : String) (accessibility : Option KeychainItemAccessibility) : Bool × Keychain :=
  let (status, added) := add refusedAdd keychain (wrapper.addedItem value key accessibility)
  match status with
  | .success => (true, added)
  | .duplicateItem => wrapper.update refusedUpdate added value key accessibility
  | .itemNotFound | .refused => (false, added)

/-- Store a text as its UTF-8 bytes. -/
def set (refusedAdd refusedUpdate : Bool) (keychain : Keychain) (value : String) (key : String)
    (accessibility : Option KeychainItemAccessibility) : Bool × Keychain :=
  wrapper.setData refusedAdd refusedUpdate keychain value.toUTF8 key accessibility

/-- Remove the key's item, unless it was stored with another accessibility than the one given.
-/
def removeObject (refused : Bool) (keychain : Keychain) (key : String)
    (accessibility : Option KeychainItemAccessibility) : Bool × Keychain :=
  let (status, removed) := delete refused keychain
    (wrapper.setupKeychainQueryDictionary key accessibility)
  (status = .success, removed)

/-- All items of the wrapper's service. -/
def allKeysQuery : Query where
  service := wrapper.serviceName
  account := none
  generic := none
  accessible := none

/-- Remove every item of the service. The result is `false` if there is none. -/
def removeAllKeys (refused : Bool) (keychain : Keychain) : Bool × Keychain :=
  let (status, removed) := delete refused keychain wrapper.allKeysQuery
  (status = .success, removed)

end KeychainWrapper

end MyFundi
