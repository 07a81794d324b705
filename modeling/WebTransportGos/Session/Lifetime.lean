import WebTransportGos.Session.StreamHandlers

/-!
The life of an end of a session, the server's or the client's: open with five fields set, then
closed with the same five nil. `Own` is what `close` changes at one of the two ends only.
-/

namespace WebTransportGos

set_option autoImplicit false

structure Fields (Own : Type*) where
  session : Option SessionRef
  connectStream : Option StreamId
  settingsStream : Option StreamId
  stream : Option StreamKind
  receiveStream : Option StreamKind
  own : Own

structure Life (Own : Type*) where
  fields : Fields Own
  pool : Pool
  onCloseRuns : Nat

namespace Life

variable {Own : Type*}

structure Opened (life : Life Own) : Prop where
  session : life.fields.session ≠ none
  connectStream : life.fields.connectStream ≠ none
  settingsStream : life.fields.settingsStream ≠ none
  stream : life.fields.stream = some .bidi
  receiveStream : life.fields.receiveStream = some .uni
  closes : ∀ kind, (life.pool.channels kind).closes = 0

structure Closed (life : Life Own) : Prop where
  session : life.fields.session = none
  connectStream : life.fields.connectStream = none
  settingsStream : life.fields.settingsStream = none
  stream : life.fields.stream = none
  receiveStream : life.fields.receiveStream = none
  closes : ∀ kind, (life.pool.channels kind).closes = 1

/-- Nothing that `close` changes is different. -/
structure Same (life next : Life Own) : Prop where
  fields : next.fields = life.fields
  closes : ∀ kind, (next.pool.channels kind).closes = (life.pool.channels kind).closes
  onCloseRuns : next.onCloseRuns = life.onCloseRuns

def ownStream (life : Life Own) : StreamKind → Option StreamId
  | .bidi => life.fields.connectStream
  | .uni => life.fields.settingsStream

def channelField (life : Life Own) : StreamKind → Option StreamKind
  | .bidi => life.fields.stream
  | .uni => life.fields.receiveStream

variable {life next : Life Own}

theorem Same.opened (same : Same life next) (opened : life.Opened) : next.Opened where
  session := same.fields ▸ opened.session
  connectStream := same.fields ▸ opened.connectStream
  settingsStream := same.fields ▸ opened.settingsStream
  stream := same.fields ▸ opened.stream
  receiveStream := same.fields ▸ opened.receiveStream
  closes kind := (same.closes kind).trans (opened.closes kind)

theorem Same.closed (same : Same life next) (closed : life.Closed) : next.Closed where
  session := same.fields ▸ closed.session
  connectStream := same.fields ▸ closed.connectStream
  settingsStream := same.fields ▸ closed.settingsStream
  stream := same.fields ▸ closed.stream
  receiveStream := same.fields ▸ closed.receiveStream
  closes kind := (same.closes kind).trans (closed.closes kind)

theorem Same.own (same : Same life next) : next.fields.own = life.fields.own :=
  congrArg Fields.own same.fields

theorem Same.own_stream (same : Same life next) (kind : StreamKind) :
    next.ownStream kind = life.ownStream kind := by
  cases kind with
  | bidi => exact congrArg Fields.connectStream same.fields
  | uni => exact congrArg Fields.settingsStream same.fields

theorem Opened.own_stream (opened : life.Opened) (kind : StreamKind) :
    life.ownStream kind ≠ none := by
  cases kind with
  | bidi => exact opened.connectStream
  | uni => exact opened.settingsStream

theorem Closed.own_stream (closed : life.Closed) (kind : StreamKind) :
    life.ownStream kind = none := by
  cases kind with
  | bidi => exact closed.connectStream
  | uni => exact closed.settingsStream

theorem Opened.channel_field (opened : life.Opened) (kind : StreamKind) :
    life.channelField kind = some kind := by
  cases kind with
  | bidi => exact opened.stream
  | uni => exact opened.receiveStream

theorem Closed.channel_field (closed : life.Closed) (kind : StreamKind) :
    life.channelField kind = none := by
  cases kind with
  | bidi => exact closed.stream
  | uni => exact closed.receiveStream

/-- A channel that a field still refers to has not been closed. -/
theorem unclosed (either : life.Opened ∨ life.Closed) (kind address : StreamKind)
    (refers : life.channelField kind = some address) :
    (life.pool.channels address).closes = 0 := by
  cases either with
  | inl opened => exact opened.closes address
  | inr closed => cases (closed.channel_field kind).symm.trans refers

end Life

end WebTransportGos
