import Ethconnect.Basic
import Ethconnect.Receipts.Memory
import Ethconnect.Receipts.Store
import Ethconnect.Receipts.Reservation
import Ethconnect.Receipts.Redelivery
import Ethconnect.Receipts.Rest
import Ethconnect.Ws.Hub
import Ethconnect.Ws.Action
import Ethconnect.Contracts.Store
import Ethconnect.Contracts.FileNames
import Ethconnect.Contracts.Lookup
import Ethconnect.Contracts.Restart
import Ethconnect.Contracts.Migration
import Ethconnect.Contracts.FlyParams
import Ethconnect.Receipts.Retry
import Ethconnect.Tx.HDWallet
import Ethconnect.Webhooks.Reply
import Ethconnect.Receipts.Query
import Ethconnect.Contracts.Lru
import Ethconnect.Contracts.AbiCache
import Ethconnect.Kafka.Config
import Ethconnect.Kafka.Bridge
import Ethconnect.Webhooks.Mongo
import Ethconnect.Tx.Signer
import Ethconnect.Eth.PrivacyGroup
