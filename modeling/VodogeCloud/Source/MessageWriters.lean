import VodogeCloud.Source.DeliveryReports
import VodogeCloud.Source.OutboundSends

/-!
# The writers of outbound messages

`RecordOutbound` and `SettleOutbound`
(apps/gateway/internal/messaging/messaging.go:269-382), the three expiry functions
(0072_an_expiry_does_not_know_the_sms_was_not_sent.sql:90-275) and the
`SmsStatusReport` branch of `app.accept_ingress` (0066_modem_registry.sql:448-491):
one transaction a step, in any order, with anything between them that leaves the
messages alone.
-/

set_option autoImplicit false

namespace VodogeCloud.Source.MessageWriters

open VodogeCloud.Lib VodogeCloud.Source.Postgres VodogeCloud.Source.CommandTables
open VodogeCloud.Source.CommandLifecycle VodogeCloud.Source.DeviceProjection
open VodogeCloud.Source.DeliveryReports
open VodogeCloud.Source.IngressWindow (IngressRow)
open VodogeCloud.Source.OutboundSends (Outbound)

/-- `RecordOutbound` with the columns that only a report reads. -/
def recordOutbound (registered : Uuid → Uuid → Bool) (message : Outbound) (id : Uuid) (now : Timestamp)
    (inbox : Inbox) : Except PgError Inbox := do
  let db ← OutboundSends.recordOutbound registered message id now inbox.db
  let inserted := (inbox.db.messages.find id).isNone && (db.messages.find id).isSome
  return {
    db := db
    delivery := if inserted then Function.update inbox.delivery id ⟨message.peer, now, none, none⟩
      else inbox.delivery }

/-- The status `settlingResults.RecordResult` passes. -/
def settledStatus (succeeded : Bool) : MessageStatus := if succeeded then .sent else .failed

inductive MessageOp where
  | recordOutbound (registered : Uuid → Uuid → Bool) (message : Outbound) (id : Uuid) (now : Timestamp)
  | settleOutbound (tenant : Uuid) (commandId : String) (succeeded : Bool) (reason : String)
      (reference : Option Int) (now : Timestamp)
  | expireCommand (context : Option Uuid) (tenant command : Uuid) (expiredAt : Option Timestamp)
  | expireOverdueCommands (context : Option Uuid) (tenant device : Uuid) (now : Option Timestamp)
  | expireOverdueTenantCommands (context : Option Uuid) (tenant : Uuid) (now : Option Timestamp)
  | statusReport (record : IngressRow)
  /-- A transaction that writes commands, wakeups or receipts, but no message. -/
  | elsewhere (after : CommandDb)

def MessageOp.apply (casts : Casts) (calendar : Calendar) : MessageOp → Inbox → Except PgError Inbox
  | .recordOutbound registered message id now, inbox =>
    MessageWriters.recordOutbound registered message id now inbox
  | .settleOutbound tenant commandId succeeded reason reference now, inbox => do
    let db ← CommandLifecycle.settleOutbound tenant commandId (settledStatus succeeded) reason reference
      now inbox.db
    return { inbox with db := db }
  | .expireCommand context tenant command expiredAt, inbox => do
    let (db, _) ← CommandLifecycle.expireCommand calendar context tenant command expiredAt inbox.db
    return { inbox with db := db }
  | .expireOverdueCommands context tenant device now, inbox => do
    let (db, _) ← CommandLifecycle.expireOverdueCommands calendar context tenant device now inbox.db
    return { inbox with db := db }
  | .expireOverdueTenantCommands context tenant now, inbox => do
    let (db, _) ← CommandLifecycle.expireOverdueTenantCommands calendar context tenant now inbox.db
    return { inbox with db := db }
  | .statusReport record, inbox => projectStatusReport casts record inbox
  | .elsewhere after, inbox =>
    .ok (if after.messages.rows = inbox.db.messages.rows then { inbox with db := after } else inbox)

end VodogeCloud.Source.MessageWriters
