import Polystore.Proofs.Engine.Keys
import Polystore.Proofs.Engine.Lossless
import Polystore.Proofs.Table.Documents

/-!
# What a key holds

A key is asked for its type, and then read with the request that fits the type. The rows of its
table follow the reply one by one, and tell it in full.

* `Redis.Content`, `Redis.Content.Told`: what a key holds, and the reply that tells it;
* `Redis.Content.rows`, `Redis.Content.rows_injective`: the rows for it, which lose nothing;
* **`Redis.keyRows_of_told`**: they are the rows that are made of the reply, by induction on its
  items;
* `Redis.Reads`, **`Redis.value_read`**: how a key is read.
-/

namespace Polystore.Redis

open Number Session

/-! ## Contents -/

/-- What a key holds. -/
inductive Content
  /-- A text, unless the key has gone since its type was told. -/
  | text (s : Option String)
  | list (items : List String)
  | hash (entries : List (String × String))
  | set (members : List String)
  | sortedSet (scored : List (String × Binary64))

namespace Content

def type : Content → KeyType
  | .text _ => .text
  | .list _ => .list
  | .hash _ => .hash
  | .set _ => .set
  | .sortedSet _ => .sortedSet

/-- A scored member comes as a pair of either kind. -/
def IsPair (p : String × Binary64) (v : Value) : Prop :=
  v = .tuple [.text p.1, .float p.2] ∨ v = .list [.text p.1, .float p.2]

/-- The reply that tells what a key holds. -/
inductive Told : Content → Value → Prop
  | gone : Told (.text none) .null
  | text (s : String) : Told (.text (some s)) (.text s)
  | list (items : List String) : Told (.list items) (.list (items.map .text))
  | hash (entries : List (String × String)) :
      Told (.hash entries) (.map (entries.map fun e => (.text e.1, .text e.2)))
  | set (members : List String) : Told (.set members) (.list (members.map .text))
  | sortedSet {scored : List (String × Binary64)} {pairs : List Value} :
      List.Forall₂ IsPair scored pairs → Told (.sortedSet scored) (.list pairs)

/-- How a score is shown: a number as it is, and infinities and the undefined number by name. -/
def shownScore : Binary64 → Value
  | .nan => .text "nan"
  | .infinite false => .text "inf"
  | .infinite true => .text "-inf"
  | x => .float x

/-- The rows for what a key holds. The positions in a list begin with one. -/
def rows (key : String) : Content → List (List Value)
  | .text s => [[.text key, (s.map Value.text).getD .null]]
  | .list items => items.mapIdx fun i s => [.int (i + 1 : Nat), .text s]
  | .hash entries => entries.map fun e => [.text e.1, .text e.2]
  | .set members => members.map fun s => [.text s]
  | .sortedSet scored => scored.map fun p => [.text p.1, shownScore p.2]

variable {key : String} {content other : Content}

/-- Every row is as wide as the columns for the type of the key. -/
theorem width_rows : ∀ row ∈ content.rows key, row.length = (keyColumns content.type).length := by
  intro row hrow
  cases content with
  | text s =>
    obtain rfl := List.mem_singleton.mp hrow
    rfl
  | list items =>
    obtain ⟨i, _, rfl⟩ := List.mem_mapIdx.mp hrow
    rfl
  | hash entries | set entries | sortedSet entries =>
    obtain ⟨entry, _, rfl⟩ := List.mem_map.mp hrow
    rfl

/-- The table for what a key holds. -/
def table (key : String) (content : Content) : Table :=
  ⟨keyColumns content.type, content.rows key, width_rows⟩

/-! ## Nothing is lost -/

theorem shownScore_injective : Function.Injective shownScore := by
  rintro (_ | ⟨_ | _⟩ | _) (_ | ⟨_ | _⟩ | _) h <;> simp_all [shownScore]

/-- Different contents of one type have different rows. -/
theorem rows_injective (htype : content.type = other.type) (h : content.rows key = other.rows key) :
    content = other := by
  cases content <;> cases other <;> cases htype
  case text.text s s' =>
    cases s <;> cases s' <;> simp_all [rows]
  case list.list items items' =>
    congr 1
    refine List.ext_getElem? fun i => ?_
    have hi := congrArg (·[i]?) h
    simp only [rows, List.getElem?_mapIdx] at hi
    refine Option.map_injective (fun s s' hs => ?_) hi
    simpa using hs
  case hash.hash entries entries' =>
    congr 1
    refine List.map_injective_iff.mpr (fun e e' he => ?_) h
    simp only [List.cons.injEq, Value.text.injEq, and_true] at he
    exact Prod.ext he.1 he.2
  case set.set members members' =>
    congr 1
    exact List.map_injective_iff.mpr (fun s s' hs => by simpa using hs) h
  case sortedSet.sortedSet scored scored' =>
    congr 1
    refine List.map_injective_iff.mpr (fun p p' hp => ?_) h
    simp only [List.cons.injEq, Value.text.injEq, and_true] at hp
    exact Prod.ext hp.1 (shownScore_injective hp.2)

example : (Content.list ["a", "", "a"]).rows "queue" =
    [[.int 1, .text "a"], [.int 2, .text ""], [.int 3, .text "a"]] := rfl

end Content

/-! ## Rows of replies -/

theorem storedText_text (s : String) : storedText (.text s) = .text s :=
  Value.normalize_storageClass (.text s)

theorem storedScore_float (x : Binary64) : storedScore (.float x) = Content.shownScore x := by
  have hfamily : TypeFamily.ofLabel "DOUBLE" = .float := by decide
  rw [storedScore, normalize, canonicalLabel_double, Value.normalizeAs_of_ne (by simp), hfamily]
  cases x with
  | nan => rfl
  | infinite negative => cases negative <;> rfl
  | finite negative m s => rfl

theorem listRows_text (items : List String) (position : Nat) :
    listRows position (items.map .text) =
      items.mapIdx fun i s => [.int (i + position : Nat), .text s] := by
  induction items generalizing position with
  | nil => rfl
  | cons s items ih =>
    rw [List.map_cons, listRows, ih, List.mapIdx_cons, storedText_text, Nat.zero_add]
    simp only [Nat.add_right_comm _ 1 position, Nat.add_assoc]

theorem mapM_replyPair {scored : List (String × Binary64)} {pairs : List Value}
    (h : List.Forall₂ Content.IsPair scored pairs) :
    pairs.mapM replyPair = .ok (scored.map fun p => (.text p.1, .float p.2)) := by
  induction h with
  | nil => rfl
  | @cons p v scored pairs hp _ ih =>
    have hpair : replyPair v = .ok (.text p.1, .float p.2) := by
      rcases hp with rfl | rfl <;> rfl
    rw [List.mapM_cons, hpair, ih]
    rfl

/-- **The rows follow the reply**, one by one. -/
theorem keyRows_of_told {content : Content} {v : Value} (h : content.Told v) (key : String) :
    keyRows key v content.type = .ok (content.rows key) := by
  cases h with
  | gone => rfl
  | text s => rw [Content.type, keyRows, storedText_text]; rfl
  | list items => exact congrArg Except.ok (listRows_text items 1)
  | hash entries =>
    change Except.ok _ = Except.ok _
    simp [Content.rows, storedText_text]
  | set members =>
    change Except.ok _ = Except.ok _
    simp [Content.rows, storedText_text]
  | @sortedSet scored pairs hpairs =>
    have hitems : keyRows key (.list pairs) .sortedSet = (pairs.mapM replyPair).map fun pairs =>
        pairs.map fun p => [storedText p.1, storedScore p.2] := rfl
    rw [Content.type, hitems, mapM_replyPair hpairs]
    simp [Except.map, Content.rows, storedText_text, storedScore_float]

theorem build_of_told {content : Content} {v : Value} {key : String} {rows : List (List Value)}
    (h : content.Told v) (hrows : keyRows key v content.type = .ok rows) :
    Table.build (keyColumns content.type) rows = .ok (content.table key) := by
  rw [keyRows_of_told h] at hrows
  cases hrows
  exact Table.build_of_width _ _ Content.width_rows

/-! ## Reading -/

variable (c : Redis)

def readCall (type : KeyType) (key : String) : Call := ⟨c.client, .redis (.read type (.text key))⟩

/-- The methods that read a key, by the name of its type. -/
def readMethods : List (String × String) := [
  ("string", "redis.get"), ("list", "redis.lrange"), ("hash", "redis.hgetall"),
  ("set", "redis.smembers"), ("zset", "redis.zrange")]

/-- The table for a key of a type that cannot be read. -/
def unsupported (name : String) : Table :=
  .single ⟨"error", "String"⟩ (.text ("Unsupported type: " ++ name))

/-- How a key is read, and what comes of it. -/
inductive Reads (key : String) : List Exchange → Except Failure Table → Prop
  /-- After a type that can be read there is one reading. -/
  | read {type : KeyType} {reply : Except NativeError Value} {result : Except Failure Table} :
      (∀ (content : Content) v, content.type = type → reply = .ok v → content.Told v →
        result = .ok (content.table key)) →
      (∀ e, reply = .error e → result = .error (watchedReport NativeKind.isKeyValue e)) →
      Reads key
        [⟨c.typeCall (.text key), .ok (.text type.name)⟩, ⟨c.readCall type key, reply⟩] result
  | unsupported {name : String} : (∀ type : KeyType, name ≠ type.name) →
      Reads key [⟨c.typeCall (.text key), .ok (.text name)⟩] (.ok (unsupported name))
  /-- What is no text names no type. -/
  | unnamed {type : Value} {result : Except Failure Table} : (∀ name, type ≠ .text name) →
      Reads key [⟨c.typeCall (.text key), .ok type⟩] result
  | unanswered {e : NativeError} :
      Reads key [⟨c.typeCall (.text key), .error e⟩]
        (.error (watchedReport NativeKind.isKeyValue e))

variable {c}

namespace Reads

variable {key : String} {result : Except Failure Table}

theorem answered {type : KeyType} {answer : Value}
    (h : ∀ content : Content, content.type = type → content.Told answer →
      result = .ok (content.table key)) :
    c.Reads key
      [⟨c.typeCall (.text key), .ok (.text type.name)⟩, ⟨c.readCall type key, .ok answer⟩] result :=
  .read (fun content v htype hv htold => by cases hv; exact h content htype htold) nofun

theorem of_unknown {type : Value} (htype : KeyType.ofReply? type = none)
    (h : ∀ name, type = .text name → result = .ok (Redis.unsupported name)) :
    c.Reads key [⟨c.typeCall (.text key), .ok type⟩] result := by
  by_cases htext : ∃ name, type = .text name
  · obtain ⟨name, rfl⟩ := htext
    rw [h name rfl]
    exact .unsupported fun kind hname =>
      KeyType.ofReply?_eq_none_iff.mp htype kind (congrArg Value.text hname)
  · exact .unnamed fun name hname => htext ⟨name, hname⟩

end Reads

theorem meets_value (key : String) : (c.value key).Meets (c.Reads key) := by
  refine meets_bind.mpr (meets_mapFailure.mpr (meets_bind.mpr ?_))
  refine meets_ask.mpr ⟨fun type => ?_, fun e => .unanswered⟩
  dsimp only
  cases hkind : KeyType.ofReply? type with
  | none =>
    refine meets_pure.mpr (meets_bind.mpr (meets_ofFault.mpr ?_))
    cases hname : replyText type with
    | error f =>
      refine .of_unknown hkind ?_
      rintro name rfl
      cases hname
    | ok name =>
      refine .of_unknown hkind ?_
      rintro name rfl
      cases hname
      rfl
  | some kind =>
    cases KeyType.ofReply?_eq_some_iff.mp hkind
    refine meets_read (fun answer rows hrows => ?_) fun reply e he => ?_
    · refine meets_bind.mpr (meets_ofFault.mpr ?_)
      cases hbuild : Table.build (keyColumns kind) rows with
      | error ragged =>
        refine .answered ?_
        rintro content rfl htold
        cases hbuild.symm.trans (build_of_told htold hrows)
      | ok table =>
        refine .answered ?_
        rintro content rfl htold
        cases hbuild.symm.trans (build_of_told htold hrows)
        rfl
    · cases reply with
      | error e' =>
        cases he
        exact .read (fun _ _ _ hv => nomatch hv) fun e' he' => by cases he'; rfl
      | ok answer =>
        refine .answered ?_
        rintro content rfl htold
        change (keyRows key answer content.type).mapError Failure.fault = .error e at he
        rw [keyRows_of_told htold] at he
        cases he

/-- **A key is read by its type, and nothing is lost.** The table of what the key holds tells it in
full. -/
theorem value_read {σ : Type} (responder : Responder σ) (state : σ) (c : Redis) (key : String) :
    c.Reads key ((c.value key).run.exchanges responder state)
      ((c.value key).run.run responder state).result ∧
    (∀ type, readMethods.lookup type.name = some (c.readCall type key).request.method) ∧
    ∀ content other : Content, content.type = other.type → content.rows key = other.rows key →
      content = other := by
  refine ⟨(meets_value key).run responder state, fun type => ?_, fun _ _ => Content.rows_injective⟩
  cases type <;> rfl

end Polystore.Redis
