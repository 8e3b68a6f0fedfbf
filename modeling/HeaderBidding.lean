import HeaderBidding.Ad.Screen
import HeaderBidding.Ad.Unit
import HeaderBidding.Bid.Cache
import HeaderBidding.Bid.Native
import HeaderBidding.Bid.Slot
import HeaderBidding.Bid.Wire
import HeaderBidding.Bidder.Basic
import HeaderBidding.Bidder.Call
import HeaderBidding.Client.Basic
import HeaderBidding.Client.Network
import HeaderBidding.Client.Report
import HeaderBidding.Client.Script
import HeaderBidding.Client.Service
import HeaderBidding.Config.File
import HeaderBidding.Config.Remote
import HeaderBidding.Decimal.Binary
import HeaderBidding.Decimal.Read
import HeaderBidding.Decimal.Shortest
import HeaderBidding.Decimal.Text
import HeaderBidding.Exchange.Server
import HeaderBidding.Http.Media
import HeaderBidding.Http.Message
import HeaderBidding.Json.Basic
import HeaderBidding.Json.Indexed
import HeaderBidding.Json.Read
import HeaderBidding.Json.Skip
import HeaderBidding.Json.Write
import HeaderBidding.Log.Event
import HeaderBidding.Log.Leveled
import HeaderBidding.Log.Trace
import HeaderBidding.Main
import HeaderBidding.Schema.Basic
import HeaderBidding.Schema.Tape
import HeaderBidding.Schema.Text
import HeaderBidding.Schema.Value
import HeaderBidding.Server.Options
import HeaderBidding.Server.Run
import HeaderBidding.Text.Blank
import HeaderBidding.Text.Canonical
import HeaderBidding.Text.Packed
import HeaderBidding.Text.Printable
import HeaderBidding.Text.Quoted
import HeaderBidding.Time.Stamp
import HeaderBidding.Token.Fresh
import HeaderBidding.Token.Uuid
import HeaderBidding.Token.Value
import HeaderBidding.Web.Domain
import HeaderBidding.Web.Domain.Classes
import HeaderBidding.Web.Domain.Table
import HeaderBidding.Web.Form
import HeaderBidding.Web.Punycode
import HeaderBidding.Web.Target
import HeaderBidding.Web.Url
import HeaderBidding.Proofs.Cache
import HeaderBidding.Proofs.Slot
import HeaderBidding.Proofs.Tokens
import HeaderBidding.Proofs.Bidder
import HeaderBidding.Proofs.Client
import HeaderBidding.Proofs.Consumption
import HeaderBidding.Proofs.Sessions
import HeaderBidding.Proofs.SizeText
import HeaderBidding.Proofs.Keys
import HeaderBidding.Proofs.InHouse
import HeaderBidding.Proofs.Refill
import HeaderBidding.Proofs.RuntimeLog
import HeaderBidding.Proofs.TokenPayloads
import HeaderBidding.Proofs.Expiry
import HeaderBidding.Proofs.Chunks
import HeaderBidding.Proofs.Verdict
import HeaderBidding.Proofs.CompactText
import HeaderBidding.Proofs.Settings
import HeaderBidding.Proofs.FloatBits
import HeaderBidding.Proofs.TapeRead
import HeaderBidding.Proofs.Lenient
import HeaderBidding.Proofs.FloatOrder
import HeaderBidding.Proofs.PriceText
import HeaderBidding.Proofs.ExchangeBids
