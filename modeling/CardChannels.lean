import CardChannels.Main
import CardChannels.Proofs.Bearer.Attempts
import CardChannels.Proofs.Bearer.GivingUp
import CardChannels.Proofs.Bearer.Provisioning
import CardChannels.Proofs.Channel.BackPressure
import CardChannels.Proofs.Channel.Clients
import CardChannels.Proofs.Channel.Sending
import CardChannels.Proofs.Command.Envelopes
import CardChannels.Proofs.Command.OpenTable
import CardChannels.Proofs.Command.Rejections
import CardChannels.Proofs.Command.Unread
import CardChannels.Proofs.Response.ReadBack
import CardChannels.Proofs.Table.BearerLoss
import CardChannels.Proofs.Table.Departure
import CardChannels.Proofs.Table.Flush
import CardChannels.Proofs.Table.Isolation
import CardChannels.Proofs.Table.LateBearer
import CardChannels.Proofs.Table.Opened
import CardChannels.Proofs.Table.Receiving
import CardChannels.Proofs.Table.SessionEnd
import CardChannels.Proofs.Table.Starting
import CardChannels.Proofs.Table.StatusWords
import CardChannels.Proofs.Table.Unopened
import CardChannels.Proofs.Terminal.Answers
import CardChannels.Proofs.Terminal.Delays
import CardChannels.Proofs.Terminal.EventList
import CardChannels.Proofs.Terminal.Timers
import CardChannels.Proofs.Terminal.Written
import CardChannels.Proofs.Text.AccessNames
import CardChannels.Proofs.Text.Escapes
import CardChannels.Proofs.Tlv.Grammar
import CardChannels.Proofs.Tlv.Measured
import CardChannels.Proofs.Tlv.PrefixCode
import CardChannels.Proofs.Tlv.Rewriting
import CardChannels.Proofs.Tlv.RoundTrip
