import Polystore.Engine.Redis
import Polystore.Native.Script
import Polystore.Proofs.Engine.Errors
import Polystore.Proofs.Native.Reading

/-!
# Listing keys

A key-value store is asked for its keys, and then for the type, the size and the time to live of one
key after another. Which calls are made for a key depends on its type. The first call that fails, or
whose reply cannot be read, ends the listing, and there is no list then.

* `Exchange.IsRead`: replies that can be read;
* `Redis.callsFor`, `Redis.sizeMethods`: the calls about a key;
* `Redis.Visit`, `Redis.AsksAbout`, **`Redis.meets_keyInfo`**: one key;
* `Redis.Visits`, `Redis.AsksAboutAll`, **`Redis.meets_infos`**: one key after another, by induction
  on the keys;
* `Redis.Listing`, **`Redis.keys_listed`**: how keys are listed, and how many the schema counts.
-/

namespace Polystore

open Session

/-! ## Replies about keys -/

/-- What is read out of an answer about keys: the keys, a type, or a number. -/
def RedisRequest.IsRead : (r : RedisRequest) → r.Answer → Prop
  | .keys _, listing => ∃ keys, replyItems listing = .ok keys
  | .typeOf _, type => ∃ t, replyKey type = .ok t
  | .sizeOf .., size => ∃ n, replyInteger size = .ok n
  | .timeToLive _, seconds => ∃ n, replyInteger seconds = .ok n
  | _, _ => True

def Request.IsRead : (r : Request) → r.Answer → Prop
  | .redis r, answer => r.IsRead answer
  | _, _ => True

namespace Exchange

/-- The call was answered, and the answer can be read. -/
def IsRead (x : Exchange) : Prop := ∃ answer, x.reply = .ok answer ∧ x.call.request.IsRead answer

theorem isRead_iff {α : Type} {n : Nat} {r : Request} {read : r.Answer → Except Fault α}
    (hread : ∀ answer, r.IsRead answer ↔ ∃ x, read answer = .ok x) (reply : Call.Reply ⟨n, r⟩) :
    IsRead ⟨⟨n, r⟩, reply⟩ ↔ ∃ x, readReply read reply = .ok x := by
  simp only [IsRead, hread, readReply_eq_ok_iff]
  exact ⟨fun ⟨answer, h, x, hx⟩ => ⟨x, answer, h, hx⟩, fun ⟨x, answer, h, hx⟩ => ⟨answer, h, x, hx⟩⟩

/-- Answers of the right shape can be read. -/
theorem isRead_of_isShaped {x : Exchange} (hok : x.reply.isOk = true) (h : x.IsShaped) :
    x.IsRead := by
  obtain ⟨⟨n, r⟩, reply⟩ := x
  cases reply with
  | error e => cases hok
  | ok answer =>
    refine ⟨answer, rfl, ?_⟩
    have hshaped := h answer rfl
    cases r with
    | sqlite | postgres | mysql | mongo => trivial
    | redis r =>
      cases r with
      | keys =>
        obtain ⟨items, rfl⟩ := hshaped
        exact ⟨items, rfl⟩
      | typeOf =>
        obtain ⟨name, rfl⟩ := hshaped
        exact ⟨.text name, rfl⟩
      | sizeOf | timeToLive => exact replyInteger_of_isSome hshaped
      | _ => trivial

/-- The answer to the question for a type. -/
def type? : Exchange → Option Value
  | ⟨⟨_, .redis (.typeOf _)⟩, .ok type⟩ => some type
  | _ => none

end Exchange

/-- The types that were answered. -/
def typesTold (xs : List Exchange) : List Value := xs.filterMap Exchange.type?

theorem KeyType.ofReply?_eq_some_iff {v : Value} {type : KeyType} :
    KeyType.ofReply? v = some type ↔ v = .text type.name := by
  constructor
  · intro h
    unfold KeyType.ofReply? at h
    split at h
    · next s =>
      have hname := List.find?_some h
      rw [beq_iff_eq] at hname
      rw [hname]
    · cases h
  · rintro rfl
    cases type <;> rfl

theorem KeyType.ofReply?_eq_none_iff {v : Value} :
    KeyType.ofReply? v = none ↔ ∀ type : KeyType, v ≠ .text type.name := by
  simp only [Option.eq_none_iff_forall_ne_some, ne_eq, KeyType.ofReply?_eq_some_iff]

namespace Redis

variable (c : Redis)

def keysCall (pattern : String) : Call := ⟨c.client, .redis (.keys pattern)⟩

def typeCall (key : Value) : Call := ⟨c.client, .redis (.typeOf key)⟩

def sizeCall (type : KeyType) (key : Value) : Call := ⟨c.client, .redis (.sizeOf type key)⟩

def ttlCall (key : Value) : Call := ⟨c.client, .redis (.timeToLive key)⟩

/-- The calls about a key of a type. -/
def callsFor (key type : Value) : List Call :=
  c.typeCall key :: ((KeyType.ofReply? type).map fun t => c.sizeCall t key).toList ++
    [c.ttlCall key]

/-- The methods that tell the size of a key, by the name of its type. -/
def sizeMethods : List (String × String) := [
  ("string", "redis.strlen"), ("list", "redis.llen"), ("set", "redis.scard"),
  ("zset", "redis.zcard"), ("hash", "redis.hlen")]

/-- A reply in seconds tells a time to live, unless it is negative. -/
def Lives (seconds : Value) (ttl : Option Int) : Prop :=
  ∃ n, replyInteger seconds = .ok n ∧ ∀ k, ttl = some k ↔ k = n ∧ 0 ≤ n

/-- The methods that are called about a key, by the name of its type. -/
theorem methods_callsFor {key : Value} {name : String} :
    (c.callsFor key (.text name)).map (·.request.method) =
      "redis.type" :: (sizeMethods.lookup name).toList ++ ["redis.ttl"] := by
  cases h : KeyType.ofReply? (.text name) with
  | some type =>
    cases KeyType.ofReply?_eq_some_iff.mp h
    cases type <;> rfl
  | none =>
    have hne (type : KeyType) : name ≠ type.name := fun hname =>
      KeyType.ofReply?_eq_none_iff.mp h type (congrArg Value.text hname)
    have hlookup : sizeMethods.lookup name = none := by
      rw [List.lookup_eq_none_iff]
      simpa [sizeMethods] using
        ⟨hne .text, hne .list, hne .set, hne .sortedSet, hne .hash⟩
    rw [callsFor, h, hlookup]
    rfl

/-- The exchanges about one key, and what they tell of it. -/
inductive Visit (key : Value) : List Exchange → KeyInfo → Prop
  | sized {type : KeyType} {size seconds : Value} {n : Int} {ttl : Option Int} :
      replyInteger size = .ok n → Lives seconds ttl →
      Visit key
        [⟨c.typeCall key, .ok (.text type.name)⟩, ⟨c.sizeCall type key, .ok size⟩,
          ⟨c.ttlCall key, .ok seconds⟩]
        ⟨key, .text type.name, n, ttl⟩
  /-- Keys of other types have no size. -/
  | unsized {type seconds : Value} {ttl : Option Int} :
      (∀ t : KeyType, type ≠ .text t.name) → Lives seconds ttl →
      Visit key [⟨c.typeCall key, .ok type⟩, ⟨c.ttlCall key, .ok seconds⟩] ⟨key, type, 0, ttl⟩

/-- The exchanges about some keys, one after another. -/
inductive Visits : List Value → List Exchange → List KeyInfo → Prop
  | nil : Visits [] [] []
  | cons {key : Value} {keys : List Value} {xs ys : List Exchange} {info : KeyInfo}
      {infos : List KeyInfo} : c.Visit key xs info → Visits keys ys infos →
      Visits (key :: keys) (xs ++ ys) (info :: infos)

/-! ## One key -/

/-- How a key is asked about: the calls follow the plan for its type as far as they go, and all of
them are behind what is told of the key. -/
structure AsksAbout (key : Value) (xs : List Exchange) (result : Except Failure KeyInfo) :
    Prop where
  asked : ∃ type, xs.map Exchange.call <+: c.callsFor key type ∧ typesTold xs <+: [type]
  told : ∀ info, result = .ok info → c.Visit key xs info

variable {c} {key : Value} {keys : List Value} {xs ys : List Exchange} {info : KeyInfo}

theorem lives_of_reply {seconds : Value} {n : Int} (h : replyInteger seconds = .ok n) :
    Lives seconds (if 0 ≤ n then some n else none) := by
  refine ⟨n, h, fun k => ?_⟩
  split
  · next hn => simp [hn, eq_comm]
  · next hn => simp [hn]

theorem eq_of_replyKey {v t : Value} (h : replyKey v = .ok t) : v = t := by
  unfold replyKey at h
  split at h
  · exact Except.ok.inj h
  · cases h

/-- The size of a key is read out of the reply. -/
theorem sizeOf_some {type : KeyType} : c.sizeOf (some type) key =
    ask c.client (.sizeOf type key) >>= fun size => ofFault (replyInteger size) >>= pure := by
  refine congrArg (ask c.client (.sizeOf type key) >>= ·) (funext fun size => ?_)
  cases replyInteger size <;> rfl

theorem callsFor_of_ofReply? {type : Value} {t : KeyType} (h : KeyType.ofReply? type = some t) :
    c.callsFor key type = [c.typeCall key, c.sizeCall t key, c.ttlCall key] := by
  rw [callsFor, h]
  rfl

theorem callsFor_of_ofReply?_eq_none {type : Value} (h : KeyType.ofReply? type = none) :
    c.callsFor key type = [c.typeCall key, c.ttlCall key] := by
  rw [callsFor, h]
  rfl

theorem Visit.calls (h : c.Visit key xs info) :
    xs.map Exchange.call = c.callsFor key info.type ∧ typesTold xs = [info.type] := by
  cases h with
  | sized => exact ⟨(callsFor_of_ofReply? (KeyType.ofReply?_eq_some_iff.mpr rfl)).symm, rfl⟩
  | unsized hnone =>
    exact ⟨(callsFor_of_ofReply?_eq_none (KeyType.ofReply?_eq_none_iff.mpr hnone)).symm, rfl⟩

/-- Once type and size are known, the time to live is asked for. -/
theorem meets_lifetime (xs : List Exchange) {type : Value} {size : Int}
    (hcalls : xs.map Exchange.call ++ [c.ttlCall key] = c.callsFor key type)
    (htypes : typesTold xs = [type])
    (hvisit : ∀ seconds ttl, Lives seconds ttl →
      c.Visit key (xs ++ [⟨c.ttlCall key, .ok seconds⟩]) ⟨key, type, size, ttl⟩) :
    (ask c.client (.timeToLive key) >>= fun seconds => ofFault (replyInteger seconds) >>= fun ttl =>
      (pure ⟨key, type, size, if 0 ≤ ttl then some ttl else none⟩ : Session KeyInfo)).Meets
        fun ys result => c.AsksAbout key (xs ++ ys) result := by
  have hasked (reply : Call.Reply (c.ttlCall key)) : ∃ t,
      List.map Exchange.call (xs ++ [⟨c.ttlCall key, reply⟩]) <+: c.callsFor key t ∧
        typesTold (xs ++ [⟨c.ttlCall key, reply⟩]) <+: [t] := by
    refine ⟨type, ?_, ?_⟩
    · rw [List.map_append, ← hcalls]
      exact List.prefix_rfl
    · rw [typesTold, List.filterMap_append, ← typesTold, htypes]
      exact List.prefix_rfl
  refine meets_read (fun answer n hn => meets_pure.mpr ⟨hasked _, ?_⟩)
    fun reply e _ => ⟨hasked reply, nofun⟩
  rintro _ ⟨⟩
  exact hvisit answer _ (lives_of_reply hn)

theorem meets_keyInfo (key : Value) : (c.keyInfo key).Meets (c.AsksAbout key) := by
  refine meets_read (fun type t ht => ?_) fun reply e _ => ⟨?_, nofun⟩
  · cases eq_of_replyKey ht
    cases hkind : KeyType.ofReply? type with
    | none =>
      refine meets_bind.mpr (meets_pure.mpr ?_)
      exact meets_lifetime [⟨c.typeCall key, .ok type⟩]
        (callsFor_of_ofReply?_eq_none hkind).symm rfl
        fun _ _ h => .unsized (KeyType.ofReply?_eq_none_iff.mp hkind) h
    | some kind =>
      have hplan : c.callsFor key type = [c.typeCall key, c.sizeCall kind key, c.ttlCall key] :=
        callsFor_of_ofReply? hkind
      cases KeyType.ofReply?_eq_some_iff.mp hkind
      refine meets_bind.mpr ?_
      rw [sizeOf_some]
      refine meets_read (fun size n hn => meets_pure.mpr ?_) fun reply e _ => ⟨?_, nofun⟩
      · exact meets_lifetime [⟨c.typeCall key, .ok _⟩, ⟨c.sizeCall kind key, .ok size⟩]
          hplan.symm rfl fun _ _ h => .sized hn h
      · refine ⟨.text kind.name, ?_, List.prefix_rfl⟩
        rw [hplan]
        exact ⟨[c.ttlCall key], rfl⟩
  · cases reply with
    | error e => exact ⟨.null, ⟨_, rfl⟩, List.nil_prefix⟩
    | ok type => exact ⟨type, ⟨_, rfl⟩, List.prefix_rfl⟩

/-! ## All keys -/

/-- How some keys are asked about, one after another. -/
structure AsksAboutAll (keys : List Value) (xs : List Exchange)
    (result : Except Failure (List KeyInfo)) : Prop where
  asked : ∃ types : List Value, types.length = keys.length ∧
    xs.map Exchange.call <+: (List.zipWith c.callsFor keys types).flatten ∧ typesTold xs <+: types
  told : ∀ infos, result = .ok infos → c.Visits keys xs infos

namespace AsksAboutAll

theorem nil : c.AsksAboutAll [] [] (.ok []) where
  asked := ⟨[], rfl, List.prefix_rfl, List.prefix_rfl⟩
  told := by
    rintro _ ⟨⟩
    exact .nil

/-- The first key that fails is the last one. -/
theorem stop {e : Failure} (h : c.AsksAbout key xs (.error e)) :
    c.AsksAboutAll (key :: keys) xs (.error e) where
  asked := by
    obtain ⟨type, hcalls, htypes⟩ := h.asked
    refine ⟨type :: List.replicate keys.length .null, by simp, ?_, ?_⟩
    · exact hcalls.trans (List.prefix_append _ _)
    · exact htypes.trans (List.prefix_append [type] _)
  told := nofun

theorem cons {result : Except Failure (List KeyInfo)} (hx : c.Visit key xs info)
    (hy : c.AsksAboutAll keys ys result) :
    c.AsksAboutAll (key :: keys) (xs ++ ys) (result.map (info :: ·)) where
  asked := by
    obtain ⟨hcalls, htypes⟩ := hx.calls
    obtain ⟨types, hlength, hrest, htold⟩ := hy.asked
    refine ⟨info.type :: types, by simp [hlength], ?_, ?_⟩
    · rw [List.map_append, hcalls]
      exact (List.prefix_append_right_inj _).mpr hrest
    · rw [typesTold, List.filterMap_append, ← typesTold, htypes]
      exact (List.prefix_append_right_inj [info.type]).mpr htold
  told := by
    cases result with
    | error e => exact nofun
    | ok infos =>
      rintro _ ⟨⟩
      exact .cons hx (hy.told infos rfl)

end AsksAboutAll

theorem meets_infos (keys : List Value) : (keys.mapM c.keyInfo).Meets (c.AsksAboutAll keys) := by
  induction keys with
  | nil => exact .nil
  | cons key keys ih =>
    rw [List.mapM_cons]
    refine meets_bind.mpr ((meets_keyInfo key).mono fun xs result hx => ?_)
    cases result with
    | error e => exact .stop hx
    | ok info =>
      refine meets_bind.mpr (ih.mono fun ys result hy => ?_)
      have hall := AsksAboutAll.cons (hx.told info rfl) hy
      cases result with
      | error e => exact hall
      | ok infos => simpa [Except.map] using hall

/-! ## A whole listing -/

/-- How keys are asked for, and then asked about. -/
structure AsksForKeys (c : Redis) (pattern : String) (xs : List Exchange)
    (result : Except Failure (List KeyInfo)) : Prop where
  /-- There is one call for the keys. The calls behind it follow the plan for the keys and their
  types, as far as they go. -/
  asked : ∃ (reply : Except NativeError Value) (rest : List Exchange) (keys types : List Value),
    xs = ⟨c.keysCall pattern, reply⟩ :: rest ∧
    (∀ listing items, reply = .ok listing → replyItems listing = .ok items → items = keys) ∧
    types.length = keys.length ∧
    rest.map Exchange.call <+: (List.zipWith c.callsFor keys types).flatten ∧
    typesTold rest <+: types
  /-- A list is complete: it tells what was replied about each key. -/
  told : ∀ infos, result = .ok infos → ∃ listing keys rest,
    xs = ⟨c.keysCall pattern, .ok listing⟩ :: rest ∧ replyItems listing = .ok keys ∧
    c.Visits keys rest infos

/-- How keys are listed. -/
structure Listing (c : Redis) (pattern : String) (xs : List Exchange)
    (result : Except Failure (List KeyInfo)) : Prop extends c.AsksForKeys pattern xs result where
  /-- Nothing follows an error, or a reply that cannot be read. -/
  stops : xs.Pairwise fun x _ => x.IsRead
  /-- An error is told. -/
  raised : ∀ x ∈ xs, ∀ e, x.reply = .error e →
    result = .error (watchedReport NativeKind.isKeyValue e)
  /-- There is a list just if all calls were answered and all replies can be read. -/
  gives : (∃ infos, result = .ok infos) ↔ ∀ x ∈ xs, x.IsRead
  /-- Replies of the shape that clients give can be read. -/
  answered : (∀ x ∈ xs, x.reply.isOk = true ∧ x.IsShaped) → ∃ infos, result = .ok infos

theorem needs_keyInfo (key : Value) : (c.keyInfo key).Needs Exchange.IsRead := by
  refine .read (Exchange.isRead_iff fun _ => Iff.rfl) fun type => ?_
  refine .bind ?_ fun size => .read (Exchange.isRead_iff fun _ => Iff.rfl) fun ttl => .pure
  cases KeyType.ofReply? type with
  | none => exact .pure
  | some kind =>
    rw [sizeOf_some]
    exact .read (Exchange.isRead_iff fun _ => Iff.rfl) fun _ => .pure

theorem meets_askForKeys (pattern : String) :
    (ask c.client (.keys pattern) >>= fun listing => ofFault (replyItems listing) >>= fun keys =>
      keys.mapM c.keyInfo).Meets (c.AsksForKeys pattern) := by
  refine meets_read (fun listing keys hkeys => (meets_infos keys).mono fun ys result hy => ?_)
    fun reply e he => ?_
  · obtain ⟨types, hlength, hcalls, htypes⟩ := hy.asked
    constructor
    case asked =>
      refine ⟨.ok listing, ys, keys, types, rfl, ?_, hlength, hcalls, htypes⟩
      rintro _ items ⟨⟩ hitems
      rw [hkeys, Except.ok.injEq] at hitems
      exact hitems.symm
    case told =>
      intro infos hinfos
      exact ⟨listing, keys, ys, rfl, hkeys, hy.told infos hinfos⟩
  · refine ⟨⟨reply, [], [], [], rfl, ?_, rfl, List.prefix_rfl, List.prefix_rfl⟩, nofun⟩
    rintro listing items rfl hitems
    change (replyItems listing).mapError Failure.fault = .error e at he
    rw [hitems] at he
    cases he

theorem meets_keys (pattern : String) : (c.keys pattern).Meets (c.Listing pattern) := by
  have hneeds : (ask c.client (.keys pattern) >>= fun listing => ofFault (replyItems listing) >>=
      fun keys => keys.mapM c.keyInfo).Needs Exchange.IsRead :=
    .read (Exchange.isRead_iff fun _ => Iff.rfl) fun keys => .mapM needs_keyInfo
  refine meets_mapFailure.mpr ((hneeds.and (meets_askForKeys pattern)).mono ?_)
  rintro xs result ⟨hhalts, hasks⟩
  have hgives : (∃ infos, result.mapError (watching NativeKind.isKeyValue) = .ok infos) ↔
      ∀ x ∈ xs, x.IsRead := by
    simp only [Except.mapError_eq_ok_iff, hhalts.gives]
  constructor
  case toAsksForKeys =>
    exact ⟨hasks.asked, fun infos h => hasks.told infos (Except.mapError_eq_ok_iff.mp h)⟩
  case stops => exact hhalts.last
  case raised =>
    intro x hx e he
    rw [hhalts.raised x hx e he]
    rfl
  case gives => exact hgives
  case answered =>
    exact fun h => hgives.mpr fun x hx => Exchange.isRead_of_isShaped (h x hx).1 (h x hx).2

/-! ## The space of keys -/

/-- The space of some number of keys. -/
def keyspace (c : Redis) (count : Nat) : SchemaEntry :=
  ⟨.text "keys", "redis_keys", .text c.database, keyspaceColumns, some count, none⟩

theorem meets_schema : c.schema.Meets fun xs result => ∃ listed, c.Listing "*" xs listed ∧
    result = listed.map fun infos => [c.keyspace infos.length] := by
  refine meets_bind.mpr ((meets_keys "*").mono fun xs result hlisting => ?_)
  cases result with
  | error e => exact ⟨_, hlisting, rfl⟩
  | ok infos =>
    refine meets_pure.mpr ⟨.ok infos, ?_, rfl⟩
    rwa [List.append_nil]

/-- **Keys are listed one after another**, each with the calls that its type asks for, and there is
a whole list or none. The schema counts the keys that are listed. -/
theorem keys_listed {σ : Type} (responder : Responder σ) (state : σ) (c : Redis) :
    (∀ pattern, c.Listing pattern ((c.keys pattern).run.exchanges responder state)
      ((c.keys pattern).run.run responder state).result) ∧
    (∃ listed, c.Listing "*" (c.schema.run.exchanges responder state) listed ∧
      (c.schema.run.run responder state).result =
        listed.map fun infos => [c.keyspace infos.length]) ∧
    ∀ key name, (c.callsFor key (.text name)).map (·.request.method) =
      "redis.type" :: (sizeMethods.lookup name).toList ++ ["redis.ttl"] := by
  exact ⟨fun pattern => (meets_keys pattern).run responder state, meets_schema.run responder state,
    fun _ _ => c.methods_callsFor⟩

/-- A store with a list that expires, and a key that has gone since the keys were told. -/
def vanishing : Responder Unit where
  reply state c :=
    match c with
    | ⟨_, .redis (.keys _)⟩ => (.ok (.list [.text "queue", .text "ghost"]), state)
    | ⟨_, .redis (.typeOf (.text "queue"))⟩ => (.ok (.text "list"), state)
    | ⟨_, .redis (.typeOf _)⟩ => (.ok (.text "none"), state)
    | ⟨_, .redis (.sizeOf .list _)⟩ => (.ok (.int 2), state)
    | ⟨_, .redis (.timeToLive (.text "queue"))⟩ => (.ok (.int 30), state)
    | ⟨_, .redis (.timeToLive _)⟩ => (.ok (.int (-2)), state)
    | _ => (.error ⟨.system, "boom"⟩, state)

example : ((Redis.keys ⟨0, "0"⟩ "*").run.run vanishing ()).result = .ok
    [⟨.text "queue", .text "list", 2, some 30⟩, ⟨.text "ghost", .text "none", 0, none⟩] := rfl

end Redis

end Polystore
