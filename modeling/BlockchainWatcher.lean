import BlockchainWatcher.Foundation.Primitives
import BlockchainWatcher.Eth.Types
import BlockchainWatcher.Eth.Filterer
import BlockchainWatcher.Eth.Selection
import BlockchainWatcher.Eth.Response
import BlockchainWatcher.Eth.Fields
import BlockchainWatcher.Eth.Widening
import BlockchainWatcher.Eth.Respelling
import BlockchainWatcher.Ipld.EthBlock
import BlockchainWatcher.Ipfs.BlockService
import BlockchainWatcher.Eth.IpldFetcher
import BlockchainWatcher.Btc.IpldFetcher
import BlockchainWatcher.Ipfs.Fetched
import BlockchainWatcher.Ipfs.Blockstore
import BlockchainWatcher.Btc.Publisher
import BlockchainWatcher.Ipfs.DagPutters
import BlockchainWatcher.Shared.Config
