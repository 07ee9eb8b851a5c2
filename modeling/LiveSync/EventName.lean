/-!
# Event names

The events that cross the wire or are published locally.  Names are never re-cased.
-/

namespace LiveSync.EventName

/-! ## Control -/

def connect := "connect"
def disconnect := "disconnect"
def connectError := "connect_error"
def reconnectAttempt := "reconnect_attempt"

/-! ## Heartbeat -/

def ping := "ping"
def pong := "pong"

/-! ## Subscriptions -/

def subscribe := "subscribe"
def subscribeAck := "subscribe_ack"
def unsubscribe := "unsubscribe"
def unsubscribeAck := "unsubscribe_ack"
def watchersChanged := "entity_watchers_changed"

/-! ## Business events -/

def entityCreated := "entity_created"
def entityUpdated := "entity_updated"
def entityDeleted := "entity_deleted"
def commentAdded := "comment_added"
def commentUpdated := "comment_updated"
def commentDeleted := "comment_deleted"
def reactionChanged := "comment_reaction_changed"
def jobProgress := "job_progress"

/-! ## Local events, never sent -/

def stateChanged := "connection_state_changed"
def connectionError := "connection_error"
def subscriptionError := "subscription_error"

end LiveSync.EventName
