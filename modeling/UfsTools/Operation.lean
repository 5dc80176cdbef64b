/-
The operation record of `lsufs.h` with its two members, as the option parsers
fill them in, and the attribute names of `uic.h`.
-/
import UfsTools.Bsg

namespace UfsTools

open CLib

/-! A field that may still be `INIT` is an `Option` where it takes named
values, and an integer that may be `init` where it takes numbers. -/

/-- `GET` and `SET`. -/
inductive UicMode where
  | get
  | set
deriving DecidableEq

/-- `LOCAL` and `PEER`. -/
inductive Side where
  | localSide
  | peerSide
deriving DecidableEq

/-- Their values in C. -/
def Side.code : Side → Int
  | .localSide => 0
  | .peerSide => 1

/-- `TX` and `RX`. -/
inductive UicDir where
  | tx
  | rx
deriving DecidableEq

/-- `struct uic_operation`, with `INIT` in every field. -/
structure UicOperation where
  mode : Option UicMode := none
  dir : Option UicDir := none
  localPeer : Option Side := none
  lane : Int := init
  attrId : Int := init
  data : UInt32 := UInt32.ofInt init
deriving DecidableEq

/-- `struct query_operation`, with `INIT` in every field but the function. -/
structure QueryOperation where
  func : UInt32 := 0
  opcode : Int := init
  idn : Int := init
  index : Int := init
  selector : Int := init
  attrValue : UInt64 := UInt64.ofInt init
deriving DecidableEq

/-- `struct lsufs_operation`.  The C union of the two operations is kept as two
members: a run of the program uses one of them only. -/
structure LsufsOperation where
  fd : Int := 0
  devicePath : Text := []
  uicOp : UicOperation := {}
  queryOp : QueryOperation := {}
deriving DecidableEq

/-- The printed name of a side: `local_peer ? "peer" : "local"`. -/
def sideName : Option Side → Text
  | some .localSide => (lit "local")
  | _ => (lit "peer")

/-- A row of a table of names. -/
def entry (id : UInt32) (name : String) : UfsCharacteristics :=
  ⟨id, lit name⟩

/-- `unipro_mphy_attrs`: attribute ID and name. -/
def uniproMphyAttrs : List UfsCharacteristics :=
  [entry 0x0001 "TX_HSMODE_Capability",
   entry 0x0002 "TX_HSGEAR_Capability",
   entry 0x0003 "TX_PWMG0_Capability",
   entry 0x0004 "TX_PWMGEAR_Capability",
   entry 0x0005 "TX_Amplitude_Capability",
   entry 0x0006 "TX_ExternalSYNC_Capability",
   entry 0x0007 "TX_HS_Unterminated_LINE_Drive_Capability",
   entry 0x0008 "TX_LS_Terminated_LINE_Drive_Capability",
   entry 0x0009 "TX_Min_SLEEP_NoConfig_Time_Capability",
   entry 0x000A "TX_Min_STALL_NoConfig_Time_Capability",
   entry 0x000B "TX_Min_SAVE_Config_Time_Capability",
   entry 0x000C "TX_REF_CLOCK_SHARED_Capability",
   entry 0x000D "TX_PHY_MajorMinor_Release_Capability",
   entry 0x000E "TX_PHY_Editorial_Release_Capability",
   entry 0x000F "TX_Hibern8Time_Capability",
   entry 0x0010 "TX_Advanced_Granularity_Capability",
   entry 0x0011 "TX_Advanced_Hibern8Time_Capability",
   entry 0x0012 "TX_HS_Equalizer_Setting_Capability",
   entry 0x0021 "TX_MODE",
   entry 0x0022 "TX_HSRATE_Series",
   entry 0x0023 "TX_HSGEAR",
   entry 0x0024 "TX_PWMGEAR",
   entry 0x0025 "TX_Amplitude",
   entry 0x0026 "TX_HS_SlewRate",
   entry 0x0027 "TX_SYNC_Source",
   entry 0x0028 "TX_HS_SYNC_LENGTH",
   entry 0x0029 "TX_HS_PREPARE_LENGTH",
   entry 0x002A "TX_LS_PREPARE_LENGTH",
   entry 0x002B "TX_HIBERN8_Control",
   entry 0x002C "TX_LCC_Enable",
   entry 0x002D "TX_PWM_BURST_Closure_Extension",
   entry 0x002E "TX_BYPASS_8B10B_Enable",
   entry 0x002F "TX_DRIVER_POLARITY",
   entry 0x0030 "TX_HS_Unterminated_LINE_Drive_Enable",
   entry 0x0031 "TX_LS_Terminated_LINE_Drive_Enable",
   entry 0x0032 "TX_LCC_Sequencer",
   entry 0x0033 "TX_Min_ActivateTime",
   entry 0x0034 "TX_PWM_G6_G7_SYNC_LENGTH",
   entry 0x0035 "TX_Advanced_Granularity_Step",
   entry 0x0036 "TX_Advanced_Granularity",
   entry 0x0037 "TX_HS_Equalizer_Setting",
   entry 0x0038 "TX_Min_SLEEP_NoConfig_Time",
   entry 0x0039 "TX_Min_STALL_NoConfig_Time",
   entry 0x003A "TX_HS_ADAPT_LENGTH",
   entry 0x0041 "TX_FSM_State",
   entry 0x0061 "MC_Output_Amplitude",
   entry 0x0062 "MC_HS_Unterminated_Enable",
   entry 0x0063 "MC_LS_Terminated_Enable",
   entry 0x0064 "MC_HS_Unterminated_LINE_Drive_Enable",
   entry 0x0065 "MC_LS_Terminated_LINE_Drive_Enable",
   entry 0x0081 "RX_HSMODE_Capability",
   entry 0x0082 "RX_HSGEAR_Capability",
   entry 0x0083 "RX_PWMG0_Capability",
   entry 0x0084 "RX_PWMGEAR_Capability",
   entry 0x0085 "RX_HS_Unterminated_Capability",
   entry 0x0086 "RX_LS_Terminated_Capability",
   entry 0x0087 "RX_Min_SLEEP_NoConfig_Time_Capability",
   entry 0x0088 "RX_Min_STALL_NoConfig_Time_Capability",
   entry 0x0089 "RX_Min_SAVE_Config_Time_Capability",
   entry 0x008A "RX_REF_CLOCK_SHARED_Capability",
   entry 0x008B "RX_HS_G1_SYNC_LENGTH_Capability",
   entry 0x008C "RX_HS_G1_PREPARE_LENGTH_Capability",
   entry 0x008D "RX_LS_PREPARE_LENGTH_Capability",
   entry 0x008E "RX_PWM_Burst_Closure_Length_Capability",
   entry 0x008F "RX_Min_ActivateTime_Capability",
   entry 0x0090 "RX_PHY_MajorMinor_Release_Capability",
   entry 0x0091 "RX_PHY_Editorial_Release_Capability",
   entry 0x0092 "RX_Hibern8Time_Capability",
   entry 0x0093 "RX_PWM_G6_G7_SYNC_LENGTH_Capability",
   entry 0x0094 "RX_HS_G2_SYNC_LENGTH_Capability",
   entry 0x0095 "RX_HS_G3_SYNC_LENGTH_Capability",
   entry 0x0096 "RX_HS_G2_PREPARE_LENGTH_Capability",
   entry 0x0097 "RX_HS_G3_PREPARE_LENGTH_Capability",
   entry 0x0098 "RX_Advanced_Granularity_Capability",
   entry 0x0099 "RX_Advanced_Hibern8Time_Capability",
   entry 0x009A "RX_Advanced_Min_ActivateTime_Capability",
   entry 0x009B "RX_HS_G4_SYNC_LENGTH_Capability",
   entry 0x009C "RX_HS_G4_PREPARE_LENGTH_Capability",
   entry 0x009D "RX_HS_Equalizer_Setting_Capability",
   entry 0x009E "RX_HS_ADAPT_REFRESH_Capability",
   entry 0x009F "RX_HS_ADAPT_INITIAL_Capability",
   entry 0x00A1 "RX_MODE",
   entry 0x00A2 "RX_HSRATE_Series",
   entry 0x00A3 "RX_HSGEAR",
   entry 0x00A4 "RX_PWMGEAR",
   entry 0x00A5 "RX_LS_Terminated_Enable",
   entry 0x00A6 "RX_HS_Unterminated_Enable",
   entry 0x00A7 "RX_Enter_HIBERN8",
   entry 0x00A8 "RX_BYPASS_8B10B_Enable",
   entry 0x00A9 "RX_Termination_Force_Enable",
   entry 0x00AA "RX_ADAPT_Control",
   entry 0x00AB "RX_RECEIVER_POLARITY",
   entry 0x00AC "RX_HS_ADAPT_LENGTH",
   entry 0x00C1 "RX_FSM_State",
   entry 0x00D1 "OMC_TYPE_Capability",
   entry 0x00D2 "MC_HSMODE_Capability",
   entry 0x00D3 "MC_HSGEAR_Capability",
   entry 0x00D4 "MC_HS_START_TIME_Var_Capability",
   entry 0x00D5 "MC_HS_START_TIME_Range_Capability",
   entry 0x00D6 "MC_RX_SA_Capability",
   entry 0x00D7 "MC_HS_LA_Capability",
   entry 0x00D8 "MC_HS_LS_PREPARE_LENGTH",
   entry 0x00D9 "MC_PWMG0_Capability",
   entry 0x00DA "MC_PWMGEAR_Capability",
   entry 0x00DB "MC_LS_Terminated_Capability",
   entry 0x00DC "MC_HS_Unterminated_Capability",
   entry 0x00DD "MC_LS_Terminated_LINE_Drive_Capability",
   entry 0x00DE "MC_HS_Unterminated_LINE_Drive_Capabilit",
   entry 0x00DF "MC_MFG_ID_Part1",
   entry 0x00E0 "MC_MFG_ID_Part2",
   entry 0x00E1 "MC_PHY_MajorMinor_Release_Capability",
   entry 0x00E2 "MC_PHY_Editorial_Release_Capability",
   entry 0x00E3 "MC_Vendor_Info_Part1",
   entry 0x00E4 "MC_Vendor_Info_Part2",
   entry 0x00E5 "MC_Vendor_Info_Part3",
   entry 0x00E6 "MC_Vendor_Info_Part4",
   entry 0x00F1 "RX_EYEMON_Capability",
   entry 0x00F2 "RX_EYEMON_Timing_MAX_Steps_Capability",
   entry 0x00F3 "RX_EYEMON_Timing_MAX_Offset_Capability",
   entry 0x00F4 "RX_EYEMON_Voltage_MAX_Steps_Capability",
   entry 0x00F5 "RX_EYEMON_Voltage_MAX_Offset_Capability",
   entry 0x00F6 "RX_EYEMON_Enable",
   entry 0x00F7 "RX_EYEMON_Timing_Steps",
   entry 0x00F8 "RX_EYEMON_Voltage_Steps",
   entry 0x00F9 "RX_EYEMON_Target_Test_Count",
   entry 0x00FA "RX_EYEMON_Tested_Count",
   entry 0x00FB "RX_EYEMON_Error_Count",
   entry 0x00FC "RX_EYEMON_Start",
   entry 0x1560 "PA_ActiveTxDataLanes",
   entry 0x1564 "PA_TxTrailingClocks",
   entry 0x1580 "PA_ActiveRxDataLanes",
   entry 0x1500 "PA_PHY_Type",
   entry 0x1520 "PA_AvailTxDataLanes",
   entry 0x1540 "PA_AvailRxDataLanes",
   entry 0x1543 "PA_MinRxTrailingClocks",
   entry 0x1567 "PA_TxPWRStatus",
   entry 0x1582 "PA_RxPWRStatus",
   entry 0x15A0 "PA_RemoteVerInfo",
   entry 0x1552 "PA_TxHsG1SyncLength",
   entry 0x1553 "PA_TxHsG1PrepareLength",
   entry 0x1554 "PA_TxHsG2SyncLength",
   entry 0x1555 "PA_TxHsG2PrepareLength",
   entry 0x1556 "PA_TxHsG3SyncLength",
   entry 0x1557 "PA_TxHsG3PrepareLength",
   entry 0x155A "PA_TxMk2Extension",
   entry 0x155B "PA_PeerScrambling",
   entry 0x155C "PA_TxSkip",
   entry 0x155D "PA_TxSkipPeriod",
   entry 0x155E "PA_Local_TX_LCC_Enable",
   entry 0x155F "PA_Peer_TX_LCC_Enable",
   entry 0x1561 "PA_ConnectedTxDataLanes",
   entry 0x1568 "PA_TxGear",
   entry 0x1569 "PA_TxTermination",
   entry 0x156A "PA_HSSeries",
   entry 0x1571 "PA_PWRMode",
   entry 0x1581 "PA_ConnectedRxDataLanes",
   entry 0x1583 "PA_RxGear",
   entry 0x1584 "PA_RxTermination",
   entry 0x1585 "PA_Scrambling",
   entry 0x1586 "PA_MaxRxPWMGear",
   entry 0x1587 "PA_MaxRxHSGear",
   entry 0x1590 "PA_PACPReqTimeout",
   entry 0x1591 "PA_PACPReqEoBTimeout",
   entry 0x15A1 "PA_LogicalLaneMap",
   entry 0x15A2 "PA_SleepNoConfigTime",
   entry 0x15A3 "PA_StallNoConfigTime",
   entry 0x15A4 "PA_SaveConfigTime",
   entry 0x15A5 "PA_RxHSUnterminationCapability",
   entry 0x15A6 "PA_RxLSTerminationCapability",
   entry 0x15A7 "PA_Hibern8Time",
   entry 0x15A8 "PA_TActivate",
   entry 0x15A9 "PA_LocalVerInfo",
   entry 0x15AA "PA_Granularity",
   entry 0x15AB "PA_MK2ExtensionGuardBand",
   entry 0x15B0 "PA_PWRModeUserData",
   entry 0x15C0 "PA_PACPFrameCount",
   entry 0x15C1 "PA_PACPErrorCount",
   entry 0x15C2 "PA_PHYTestControl",
   entry 0x15D0 "PA_TxHsG4SyncLength",
   entry 0x15D1 "PA_TxHsG4PrepareLength",
   entry 0x15D2 "PA_PeerRxHsAdaptRefresh",
   entry 0x15D3 "PA_PeerRxHsAdaptInitial",
   entry 0x15D4 "PA_TxHsAdaptType",
   entry 0x15D5 "PA_AdaptAfterLRSTInPA_INIT",
   entry 0x5100 "DME_TX_DATA_OFL",
   entry 0x5101 "DME_TX_NAC_RECEIVED",
   entry 0x5102 "DME_TX_QoS_COUNT",
   entry 0x5103 "DME_TX_DL_LM_ERROR",
   entry 0x5110 "DME_RX_DATA_OFL",
   entry 0x5111 "DME_RX_CRC_ERROR",
   entry 0x5112 "DME_RX_QoS_COUNT",
   entry 0x5113 "DME_RX_DL_LM_ERROR",
   entry 0x5120 "DME_TXRX_DATA_OFL",
   entry 0x5121 "DME_TXRX_PA_INIT_REQUEST",
   entry 0x5122 "DME_TXRX_QoS_COUNT",
   entry 0x5123 "DME_TXRX_DL_LM_ERROR",
   entry 0x5130 "DME_QoS_ENABLE",
   entry 0x5131 "DME_QoS_STATUS"]

end UfsTools
