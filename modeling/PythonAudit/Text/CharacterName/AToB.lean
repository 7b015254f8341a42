/-!
# Names of characters from A to B

The names are in order, without blanks and without hyphens inside words, and cut into lines of one length.
Each name starts with how many characters it shares with the one before it, from `a` for none to `z` for 25; a
plus sign adds 26.
-/

namespace PythonAudit

namespace Text

namespace CharacterName

/-- The names that start with A. -/
def namesA : List String :=
  ["aABACUSbCCORDIONeUNTOFdURRENTcKdNOWLEDGEcTIVATEARABICFORMSHAPINGiSYMMETRICSWAPPINGcUTEACCENTgNGLEbDDRESSEDTOTH",
    "ESUBJECTcHESIVEBANDAGEcISHAKTIcLAMALIFLENGTHENERfCAPITALLETTERALIFsBAtHEsCHIsDAALItHAsEsFAsGAtBEsHAsIsJIIMsKAF",
    "tHAtPOsLAAMsMIIMsNHAtUNtYAsOsPEsQAAFsRAsSHAtINNYIIYHEsTUsUsVAsWAWsYAtHEsZALgONSONANTMODIFIERfDIGITEIGHTkFIVElO",
    "URkNINEkONEkSEVENlIXkTHREElWOkZEROfGEMINATECONSONANTMODIFIERmIONMARKfHAMZAfINITIALEXCLAMATIONMARKmQUESTIONMARK",
    "fNASALIZATIONMARKgUKTAfSMALLLETTERALIFqBArHEqCHIqDAALIrHAqEqFAqGArBEqHAqIqJIIMqKAFrHArPOqLAAMqMIIMqNHArUNrYAqO",
    "qPEqQAAFqRAqSHArINNYIIYHEqTUqUqVAqWAWqYArHEqZALfVOWELLENGTHENERcMETOSdISSIONTICKETScULTbEGEANCHECKMARKgDRYMEAS",
    "UREFIRSTSUBUNITgLIQUIDMEASUREFIRSTSUBUNITgMEASURESECONDSUBUNITnTHIRDSUBUNITgNUMBEREIGHTrHUNDREDrTHOUSANDrYsTHO",
    "USANDmFIFTYrTHOUSANDoVEqHUNDREDqTHOUSANDnORTYrTHOUSANDoURqHUNDREDqTHOUSANDmNINEqHUNDREDqTHOUSANDrYsTHOUSANDmON",
    "EpHUNDREDpTHOUSANDmSEVENrHUNDREDrTHOUSANDsYtTHOUSANDnIXpHUNDREDpTHOUSANDqYrTHOUSANDmTENpTHOUSANDnHIRTYsTHOUSAN",
    "DoREErHUNDREDrTHOUSANDnWENTYsTHOUSANDoOpHUNDREDpTHOUSANDgWEIGHTBASEUNITmFIRSTSUBUNITnOURTHSUBUNITmSECONDSUBUNI",
    "TmTHIRDSUBUNIThORDSEPARATORDOTtLINEcRIALTRAMWAYbFGHANISIGNbHOMCONSONANTSIGNMEDIALLAyIGATINGRAxRAeDIGITEIGHTjFI",
    "VEkOURjNINEjONEjSEVENkIXjTHREEkWOjZEROeLETTERAlLTERNATEBAtGAtTAkBAlHAkCAlHAkDAlDAmHAlHAkGAlHAkHAkJAlHAkKAlHAkL",
    "AlLAkMAkNAlGAlNAlYAkPAlHAkRAkSAkTAlHAlTAmHAeNUMBERTENlWENTYeSIGNKILLERiRULAIiSECTIONjMALLSECTIONfYMBOLVIeVOWEL",
    "SIGNAoAoIoMoWnEnIoInOnUoUbIRPLANEiARRIVINGiDEPARTUREbKTIESELSKABbLARMCLOCKcCHEMICALSYMBOLFORAIRuLEMBICvKALIz2v",
    "UMuMALGAMuNTIMONYOREuQUAFORTISxREGIA+c2xVITAE+c2uRSENICuSHESuURIPIGMENTtBATHOFMARYzVAPOURSuISMUTHOREuLACKSULFU",
    "RuORAXy2y3uRICKtCADUCEUSvLXvPUTMORTUUMuINNABARuOPPERANTIMONIATEzOREuROCUSOFCOPPER+h2+bIRONvUCIBLE+b2+b3+b4+b5t",
    "DAYNIGHTuISSOLVE+b2wTILLtEARTHtFIREtGOLDuUMtHALFDRAMxOUNCEuORSEDUNGvURtIRONCOPPERORExORE+a2tLEADOREuODESTONEtM",
    "ARCASITEuERCURYSUBLIMATE+j2+j3uONTHtNIGHTvTREtOILtPHILOSOPHERSSULFURuOTASHESvWDERzEDBRICKuRECIPITATEuURIFYvTRE",
    "FACTIONtQUICKLIMEwNTESSENCEtREALGAR+a2vGULUS+a2+a3+a4+aOFANTIMONY+k2+cIRONvTORTuOCKSALT+b2tSALAMMONIACwTxOFANT",
    "IMONYzCOPPERANTIMONIATEuCEPTEROFJOVEuILVERuOAPuPIRITuTARREDTRIDENTvRATUMSUPERSTRATUM+m2uUBLIMATEOFANTIMONY+eCO",
    "PPER+eSALTOFANTIMONY+kCOPPER+bIONvLFURtTARTARz2uINCTUREwOREuRIDENTuUTTYtURINEtVERDIGRISuINEGAR+a2+a3+aOFANTIMO",
    "NYvTRIOL+a2tWATERvXcEFSYMBOLdMBICdRTcIENMONSTERcLAROUNDPROFILEdEQUALTOcMdOSTEQUALOREQUALTOlTOnWITHCIRCUMFLEXAC",
    "CENTcTERNATEONEWAYLEFTWAYTRAFFICiIVEKEYSYMBOLbMALGAMATIONORCOPRODUCTcBULANCEcERICANFOOTBALLcPERSANDdHORAbNATOL",
    "IANHIEROGLYPHA001w2w3w4w5w6w7w8w9v10xAw1w2w3w4w5w6w7w8w9v20w1w2w3w4w5w6xAw7w8w9v30w1w2w3w4w5w6w7w8w9xAv40w1xAw",
    "2w3w4w5xAw6xAxBw7w8w9v50w1w2w3w4w5w6w7w8w9v60w1w2w3w4w5w6xAxBxCw7w8w9v70w1w2w3w4w5w6w7w8w9v80w1w2w3w4w5w6w7w8w",
    "9v90w1w2w3w4w5w6w7xAw8xAw9u100xAw1xAw2xAw3w4xAxBxCw5xAxBw6w7xAxBxCw8w9v10xAxBw1w2w3w4w5xAw6w7w8w9v20w1w2w3w4w5",
    "xAw6w7w8w9v30w1w2w3w4w5xAw6w7w8w9v40w1w2w3w4w5w6w7w8w9v50w1w2w3w4w5w6w7w8w9v60w1w2w3w4w5w6w7w8w9v70w1w2w3w4w5w",
    "6w7w8w9v80w1w2w3w4w5w6w7w8w9v90w1w2w3w4w5w6w7w8w9u200w1w2xAxBw3w4w5w6w7xAw8w9xAv10w1w2w3w4w5xAw6xAw7w8w9v20w1w",
    "2w3w4w5w6w7xAw8w9v30w1w2w3w4w5w6w7w8w9v40w1w2w3w4w5w6w7w8w9v50w1w2w3w4w5w6w7w8w9v60w1w2w3w4w5w6w7xAw8w9v70w1w2",
    "w3w4w5w6w7w8w9v80w1w2w3w4w5w6w7w8w9xAv90w1w2w3w4xAw5w6w7w8w9xAu300w1w2w3w4w5w6w7w8w9xAv10w1w2w3w4w5w6w7w8w9v20",
    "w1w2w3w4w5w6w7w8w9xAv30w1w2AxBxCw3w4w5w6xAxBxCw7w8w9v40w1w2w3w4w5w6w7w8w9v50w1w2w3w4w5w6w7w8w9xAv60w1w2w3w4xAw",
    "5w6w7w8xAw9v70w1xAw2w3w4w5w6w7w8w9v80w1xAw2w3AxRAORRIw4w5w6xAw7w8w9v90w1w2w3EIGHTw4w5w6w7w8w9u400w1w2w3w4w5w6w",
    "7w8w9v10AENDLOGOGRAMMARKxBEGINLOGOGRAMMARKw1w2w3w4w5w6w7w8w9v20w1w2w3w4w5w6w7w8w9v30w1w2w3w4w5w6w7w8w9v40w1w2w",
    "3w4w5w6w7w8w9v50xAw1w2w3w4w5w6w7xAw8w9v60w1w2w3w4w5w6w7w8w9v70w1w2w3w4w5w6w7w8w9v80w1w2w3w4w5w6w7w8w9v90w1w2w3",
    "w4w5w6w7u501w2w3w4w5w6w7w8w9v10w1w2w3w4w5w6w7w8w9v20w1w2w3w4w5w6w7w8w9v30fMICALHEARTcCHORcDWITHDOTcGERSYMBOLdL",
    "EfWITHSINSIDEjUNDERBARdRYFACEdSTROMSIGNdUISHEDFACEcKHcTdENNAWITHBARSdICLOCKWISECLOSEDCIRCLEARROWoONTOURINTEGRA",
    "LnDOWNWARDSANDUPWARDSOPENCIRCLEARROWSnGAPPEDCIRCLEARROWnINTEGRATIONnOPENCIRCLEARROWnTOPSEMICIRCLEARROWoRIANGLE",
    "HEADEDBOTTOMUSHAPEDARROW+bLEFTUSHAPEDARROW+bOPENCIRCLEARROW+bRIGHTUSHAPEDARROW+bTOPUSHAPEDARROWbPCcLFUNCTIONAL",
    "SYMBOLALPHAyUNDERBARtBACKSLASHBARtCIRCLEBACKSLASHzDIAERESISzJOTzSTAR+bILEzUNDERBARuOMMABARtDELDIAERESISwSTILEw",
    "TASTILEyUNDERBARxILDEuIAMONDUNDERBARuOWNCARETTILDExSHOESTILExTACKJOT+bUNDERBARxWARDSVANEtEPSILONUNDERBARtGREAT",
    "ERTHANDIAERESIStIBEAMuOTAxUNDERBARtJOTDIAERESISwUNDERBARtLEFTSHOESTILExWARDSVANEtOMEGAyUNDERBARtQUADxBACKSLASH",
    "xCIRCLEyOLONxDEL+aTAyIAMONDzVIDEyOWNCARET+bWARDSARROWxEQUALxGREATERTHANxJOTxLEFTWARDSARROWzSSTHANxNOTEQUALxQUE",
    "STIONxRIGHTWARDSARROWxSLASHxUPCARETzWARDSARROWvOTEQUADyUNDERBARtRHOuIGHTWARDSVANEtSEMICOLONUNDERBARuLASHBARuQU",
    "ISHQUADuTARDIAERESISvILETILDEtTILDEDIAERESIStUPCARETTILDEvSHOEJOTvTACKDIAERESISzJOTzOVERBARvWARDSVANEtZILDEcOL",
    "LONdSTROPHEcPLICATIONPROGRAMCOMMANDdROACHESTHELIMITfXIMATELYBUTNOTACTUALLYEQUALTOnEQUALOREQUALTOsTOuORTHEIMAGE",
    "OFbQUARIUSbRABICBASELINEROUNDDOTgCOMMAhURLYDAMMAqTANlFATHAqTANlKASRAqTANgDAMMAlISOLATEDFORMlMEDIALFORMlTANoISO",
    "LATEDFORMlWITHDOTiTESEPARATORhECIMALSEPARATORhISPUTEDENDOFAYAHhOUBLEDMADDAmRIGHTARROWHEADABOVE+fWITHDOTgEMPTYC",
    "ENTREHIGHSTOPrLOWSTOPhNDOFAYAHlTEXTMARKgFATHAlISOLATEDFORMlMEDIALFORMlTANoISOLATEDFORMlWITHDOTABOVEpRINGpTWODO",
    "TShIVEPOINTEDSTARhOOTNOTEMARKERhULLSTOPgHALFMADDAOVERMADDAiMZAABOVElBELOWgINDICCUBEROOTlDIGITEIGHTqFIVErOURqNI",
    "NEqONEqSEVENrIXqTHREErWOqZEROlFOURTHROOTlPERMILLESIGNoTENTHOUSANDSIGNiVERTEDDAMMAgKASRAlISOLATEDFORMlMEDIALFOR",
    "MlTANoISOLATEDFORMlWITHDOTBELOWgLARGECIRCLEBELOWlROUNDDOTABOVEtBELOWtINSIDECIRCLEBELOWhEFTARROWHEADABOVEtBELOW",
    "iTTERAEnFRICANFEHtNOONtQAFwWITHTHREEDOTSABOVEnINpFINALFORMpINITIALFORMqSOLATEDFORMpMEDIALFORMpWITHTHREEDOTSABO",
    "VE+cBELOW+cPOINTINGDOWNWARDSABOVEuWODOTSABOVE+aVERTICALLYABOVEnLEFqFINALFORMqISOLATEDFORMqMAKSURAxFINALFORMxIS",
    "OLATEDFORMqWASLAvFINALFORMvISOLATEDFORMrITHATTACHEDBOTTOMRIGHTKASRA+sANDDOTABOVE+vLEFTRING+cFATHA+cKASRA+cLEFT",
    "HAMZA+gROUNDDOT+cRIGHTHAMZA+hROUNDDOT+dOUNDDOTABOVE+kBELOW+cTOPRIGHTFATHA+pANDDOTABOVE+sLEFTRINGuDOTABOVEuEXTE",
    "NDEDARABICINDICDIGITTHREEABOVE+tWOABOVEuHAMZAABOVE+eFINALFORM+eISOLATEDFORMzBELOW+eFINALFORM+eISOLATEDFORMuLEF",
    "TMIDDLESTROKEuMADDAABOVE+eFINALFORM+eISOLATEDFORMuRIGHTMIDDLESTROKE+lANDDOTABOVE+oLEFTRINGuWAVYHAMZAABOVE+dBEL",
    "OWmBEEHqFINALFORMqINITIALFORMrSOLATEDFORMqMEDIALFORMoHpEHrFINALFORMrINITIALFORMsSOLATEDFORMrMEDIALFORMpFINALFO",
    "RMpINITIALFORMqSOLATEDFORMpMEDIALFORMpWITHDOTBELOWANDTHREEDOTSABOVEtHAMZAABOVEtINVERTEDSMALLVBELOWtSMALLMEEMAB",
    "OVEyVzBELOWtTHREEDOTSHORIZONTALLYBELOW+cPOINTINGUPWARDSBELOW+wANDTWODOTSABOVEuWODOTSBELOWANDDOTABOVEmDADpFINAL",
    "FORMpINITIALFORMqSOLATEDFORMpMEDIALFORMpWITHDOTBELOWoHALrFINALFORMrISOLATEDFORMoLpFINALFORMpISOLATEDFORMpWITHD",
    "OTBELOW+bANDSMALLTAHtFOURDOTSABOVEtINVERTEDSMALLVBELOW+bVtRINGtTHREEDOTSABOVEDOWNWARDS+cBELOWuWODOTSVERTICALLY",
    "BELOWANDSMALLTAHnDAHALsFINALFORMsISOLATEDFORMpLqFINALFORMqISOLATEDFORMnOTLESSBEHtFEHtQAFnULpFINALFORMpISOLATED",
    "FORMnYEHqFINALFORMqINITIALFORMrSOLATEDFORMqMEDIALFORMmEnFINALFORMnINITIALFORMoSOLATEDFORMnMEDIALFORMmFARSIYEHu",
    "FINALFORMuINITIALFORMvSOLATEDFORMuMEDIALFORMuWITHEXTENDEDARABICINDICDIGITFOURBELOW+wTHREEABOVE+xWOABOVEyINVERT",
    "EDVyTHREEDOTSABOVEzWODOTSABOVEnEHpFINALFORMpINITIALFORMqSOLATEDFORMpMEDIALFORMpWITHDOTBELOW+bANDTHREEDOTSABOVE",
    "wMOVEDBELOWtTHREEDOTSBELOW+cPOINTINGUPWARDSBELOWuWODOTSBELOWmGAFpFINALFORMpINITIALFORMqSOLATEDFORMpMEDIALFORMp",
    "WITHINVERTEDSTROKEtRINGtTHREEDOTSABOVEuWODOTSBELOWnHAINrFINALFORMrINITIALFORMsSOLATEDFORMrMEDIALFORMrWITHDOTBE",
    "LOWvTHREEDOTSABOVEnRAFnUEHqFINALFORMqINITIALFORMrSOLATEDFORMqMEDIALFORMmHAHpFINALFORMpINITIALFORMqSOLATEDFORMp",
    "MEDIALFORMpWITHEXTENDEDARABICINDICDIGITFOURBELOWtHAMZAABOVEtINVERTEDSMALLVBELOWtSMALLARABICLETTERTAHABOVE+oNDT",
    "WODOTS+nBELOWtTHREEDOTSABOVE+cPOINTINGUPWARDSBELOWuWODOTSABOVE+aVERTICALABOVEoMZArISOLATEDFORMnEHpDOACHASHMEE+",
    "aFINALFORM+aINITIALFORM+bSOLATEDFORM+aMEDIALFORMpFINALFORMpGOALtFINALFORMtINITIALFORMuSOLATEDFORMtMEDIALFORMtW",
    "ITHHAMZAABOVEpINITIALFORMqSOLATEDFORMpMEDIALFORMpWITHINVERTEDVtYEHABOVE+bFINALFORM+bISOLATEDFORMnIGHHAMZAvALEF",
    "vWAWvYEHmJEEMqFINALFORMqINITIALFORMrSOLATEDFORMqMEDIALFORMqWITHTHREEDOTSABOVE+dBELOWvWODOTSABOVEoHpFINALFORMpI",
    "SOLATEDFORMmKAFpFINALFORMpINITIALFORMqSOLATEDFORMpMEDIALFORMpWITHDOTABOVEwBELOWtRINGtTHREEDOTSBELOWuWODOTSABOV",
    "EoSHMIRIYEHnEHEHrFINALFORMrINITIALFORMsSOLATEDFORMrMEDIALFORMrWITHDOTABOVEvSMALLVvTHREEDOTSABOVE+eBELOW+ePOINT",
    "INGUPWARDSBELOWwWODOTSABOVE+cVERTICALLYBELOWnHAHqFINALFORMqINITIALFORMrSOLATEDFORMqMEDIALFORMnIRGHIZOEvFINALFO",
    "RMvISOLATEDFORMtYUvFINALFORMvISOLATEDFORMmLAMpFINALFORMpINITIALFORMqSOLATEDFORMpMEDIALFORMpWITHBARtDOTABOVEvUB",
    "LEBARtSMALLARABICLETTERTAHABOVEyVtTHREEDOTSABOVE+cBELOWnOWALEFmMARKnEEMqFINALFORMqINITIALFORMrSOLATEDFORMqMEDI",
    "ALFORMqWITHDOTABOVExBELOWuTHREEDOTSABOVEmNGoFINALFORMoINITIALFORMpSOLATEDFORMoMEDIALFORMoOEHrFINALFORMrINITIAL",
    "FORMsSOLATEDFORMrMEDIALFORMnOONqFINALFORMqGHUNNAwFINALFORMwISOLATEDFORMqINITIALFORMrSOLATEDFORMqMEDIALFORMqWIT",
    "HDOTBELOWuINVERTEDSMALLVuRINGuSMALLTAHzVuTHREEDOTSABOVEvWODOTSBELOWnYEHqFINALFORMqINITIALFORMrSOLATEDFORMqMEDI",
    "ALFORMmOEoFINALFORMoISOLATEDFORMmPEHpEHrFINALFORMrINITIALFORMsSOLATEDFORMrMEDIALFORMpFINALFORMpINITIALFORMqSOL",
    "ATEDFORMpMEDIALFORMpWITHSMALLMEEMABOVEyVmQAFpFINALFORMpINITIALFORMqSOLATEDFORMpMEDIALFORMpWITHDOTABOVEwBELOW+b",
    "ANDNODOTSABOVEtTHREEDOTSABOVEmREHpFINALFORMpISOLATEDFORMpWITHDOTBELOW+bANDDOTABOVEtFOURDOTSABOVEtHAMZAABOVEtIN",
    "VERTEDVtLOOPtRINGtSMALLARABICLETTERTAHANDTWODOTSyNOONABOVEyVzBELOWuTROKEtTWODOTSABOVE+aVERTICALLYABOVEnNOONrFI",
    "NALFORMrINITIALFORMsSOLATEDFORMrMEDIALFORMnOHINGYAYEHnREHqFINALFORMqISOLATEDFORMmSADpFINALFORMpINITIALFORMqSOL",
    "ATEDFORMpMEDIALFORMpWITHTHREEDOTSABOVE+cBELOWuWODOTSBELOWnEENqFINALFORMqINITIALFORMrSOLATEDFORMqMEDIALFORMqWIT",
    "HDOTBELOWANDDOTABOVEuEXTENDEDARABICINDICDIGITFOURABOVEuFOURDOTSABOVEuINVERTEDVuSMALLARABICLETTERTAHANDTWODOTSu",
    "THREEDOTSBELOW+iANDTHREEDOTSABOVEvWODOTSVERTICALLYABOVEnHEENrFINALFORMrINITIALFORMsSOLATEDFORMrMEDIALFORMrWITH",
    "DOTBELOWnTRAIGHTWAWnUPERSCRIPTALEFnWASHKAFmTAHpFINALFORMpINITIALFORMqSOLATEDFORMpMEDIALFORMpWITHDOTBELOWtTHREE",
    "DOTSABOVE+cBELOWuWODOTSABOVEnCHEHrEHtFINALFORMtINITIALFORMuSOLATEDFORMtMEDIALFORMrFINALFORMrINITIALFORMsSOLATE",
    "DFORMrMEDIALFORMrWITHDOTABOVEvSMALLVnEHpEHrFINALFORMrINITIALFORMsSOLATEDFORMrMEDIALFORMpFINALFORMpINITIALFORMq",
    "SOLATEDFORMpMARBUTAwFINALFORMwGOALwISOLATEDFORMqEDIALFORMpWITHRINGtSMALLTEHABOVEyVtTHREEDOTSABOVEDOWNWARDSnHAL",
    "qFINALFORMqISOLATEDFORMoEHqFINALFORMqINITIALFORMrSOLATEDFORMqMEDIALFORMoINYEHnTEHqEHsFINALFORMsINITIALFORMtSOL",
    "ATEDFORMsMEDIALFORMqFINALFORMqINITIALFORMrSOLATEDFORMqMEDIALFORMqWITHSMALLVmUnFINALFORMnIGHURKAZAKHKIRGHIZALEF",
    "MAKSURAINITIALFORM+qMEDIALFORMoSOLATEDFORMnWITHHAMZAABOVE+bISOLATEDFORMmVEoFINALFORMoHpFINALFORMpINITIALFORMqS",
    "OLATEDFORMpMEDIALFORMoISOLATEDFORMmWAWpFINALFORMpISOLATEDFORMpWITHDOTABOVEwWITHINtEXTENDEDARABICINDICDIGITTHRE",
    "EABOVE+sWOABOVEtHAMZAABOVE+dFINALFORM+dISOLATEDFORMtRINGtTWODOTSABOVEmYEHpBARREEvFINALFORMvISOLATEDFORMvWITHEX",
    "TENDEDARABICINDICDIGITTHREEABOVE+yWOABOVEzHAMZAABOVE+jFINALFORM+jISOLATEDFORMpFINALFORMpINITIALFORMqSOLATEDFOR",
    "MpMEDIALFORMpWITHHAMZAABOVE+dFINALFORM+dINITIALFORM+eSOLATEDFORM+dMEDIALFORMtSMALLVtTAILuHREEDOTSBELOWuWODOTSB",
    "ELOWANDDOTABOVE+iHAMZAABOVE+iSMALLNOONABOVEnUoFINALFORMoISOLATEDFORMmZAHpFINALFORMpINITIALFORMqSOLATEDFORMpMED",
    "IALFORMoINqFINALFORMqISOLATEDFORMqWITHINVERTEDVABOVEhIGATUREAINWITHALEFMAKSURAFINALFORM+gISOLATEDFORMvJEEMINIT",
    "IALFORM+aSOLATEDFORMzWITHMEEMFINALFORM+hINITIALFORMvMEEMINITIALFORM+aSOLATEDFORMzWITHALEFMAKSURAFINALFORM+dMEE",
    "MFINALFORM+hINITIALFORM+dYEHFINALFORMvYEHFINALFORMyISOLATEDFORMpKBARISOLATEDFORMpLAYHAAASSALAAMtEISOLATEDFORMt",
    "IASSALAAM+bTUWASSALAAMuMAAASSALAAMwSSALAAMqEFMAKSURAWITHSUPERSCRIPTALEFFINALFORM+sISOLATEDFORMsWITHFATHATANFIN",
    "ALFORM+eISOLATEDFORMqLAHISOLATEDFORMpZZAWAJALLoBEHWITHALEFMAKSURAFINALFORM+gISOLATEDFORMvHAHINITIALFORMzSOLATE",
    "DFORMyWITHYEHFINALFORMwEHINITIALFORMyMEDIALFORMvJEEMINITIALFORM+aSOLATEDFORMvKHAHINITIALFORM+aSOLATEDFORMzWITH",
    "YEHFINALFORMvMEEMFINALFORMzINITIALFORM+aSOLATEDFORMzMEDIALFORMvNOONFINALFORMvREHFINALFORMvYEHFINALFORMyISOLATE",
    "DFORMvZAINFINALFORMpISMILLAHARRAHMANARRAHEEMoDADWITHALEFMAKSURAFINALFORM+gISOLATEDFORMvHAHINITIALFORMzSOLATEDF",
    "ORMyWITHALEFMAKSURAFINALFORM+cYEHFINALFORMvJEEMINITIALFORM+aSOLATEDFORMvKHAHINITIALFORM+aSOLATEDFORMzWITHMEEMF",
    "INALFORM+hINITIALFORMvMEEMINITIALFORM+aSOLATEDFORMvREHFINALFORMyISOLATEDFORMvYEHFINALFORMyISOLATEDFORMoFEHWITH",
    "ALEFMAKSURAFINALFORM+gISOLATEDFORMvHAHINITIALFORMzSOLATEDFORMvJEEMINITIALFORM+aSOLATEDFORMvKHAHINITIALFORM+aSO",
    "LATEDFORMzWITHMEEMFINALFORM+hINITIALFORMvMEEMINITIALFORM+aSOLATEDFORMzWITHYEHFINALFORMvYEHFINALFORMyISOLATEDFO",
    "RMoGHAINWITHALEFMAKSURAFINALFORM+iISOLATEDFORMxJEEMINITIALFORM+cSOLATEDFORMxMEEMINITIALFORM+cSOLATEDFORM+bWITH",
    "ALEFMAKSURAFINALFORM+fMEEMFINALFORM+fYEHFINALFORMxYEHFINALFORM+aISOLATEDFORMoHAHWITHALEFMAKSURAFINALFORM+gISOL",
    "ATEDFORMvJEEMINITIALFORM+aSOLATEDFORMzWITHYEHFINALFORMvMEEMINITIALFORM+aSOLATEDFORMzWITHALEFMAKSURAFINALFORM+d",
    "YEHFINALFORMvYEHFINALFORMyISOLATEDFORMpEHWITHALEFMAKSURAISOLATEDFORMvJEEMINITIALFORM+aSOLATEDFORMvMEEMINITIALF",
    "ORM+aSOLATEDFORMzWITHJEEMINITIALFORM+dMEEMINITIALFORMvSUPERSCRIPTALEFINITIALFORMvYEHISOLATEDFORMoJALLAJALALOUH",
    "OUpEEMWITHALEFMAKSURAFINALFORM+hISOLATEDFORMwHAHINITIALFORM+aSOLATEDFORMzWITHALEFMAKSURAFINALFORM+dYEHFINALFOR",
    "MwMEEMINITIALFORM+bSOLATEDFORM+aWITHALEFMAKSURAFINALFORM+eHAHFINALFORM+hINITIALFORM+eYEHFINALFORMwYEHFINALFORM",
    "zISOLATEDFORMoKAFWITHALEFFINALFORMzISOLATEDFORMzMAKSURAFINALFORM+gISOLATEDFORMvHAHINITIALFORMzSOLATEDFORMvJEEM",
    "INITIALFORM+aSOLATEDFORMvKHAHINITIALFORM+aSOLATEDFORMvLAMFINALFORMyINITIALFORMzSOLATEDFORMyMEDIALFORMvMEEMFINA",
    "LFORMzINITIALFORM+aSOLATEDFORMzMEDIALFORMzWITHMEEMFINALFORM+hINITIALFORM+dYEHFINALFORMvYEHFINALFORMyISOLATEDFO",
    "RMpHAHWITHALEFMAKSURAFINALFORM+hISOLATEDFORMwHAHISOLATEDFORMwJEEMINITIALFORM+bSOLATEDFORMwMEEMINITIALFORM+bSOL",
    "ATEDFORMwYEHFINALFORMzISOLATEDFORMoLAMWITHALEFFINALFORMzISOLATEDFORMzMAKSURAFINALFORM+gISOLATEDFORMzWITHHAMZAA",
    "BOVEFINALFORM+nISOLATEDFORM+iBELOWFINALFORM+nISOLATEDFORM+dMADDAABOVEFINALFORM+nISOLATEDFORMvHAHINITIALFORMzSO",
    "LATEDFORMyWITHALEFMAKSURAFINALFORM+cMEEMFINALFORM+gINITIALFORM+cYEHFINALFORMwEHINITIALFORMvJEEMINITIALFORM+aSO",
    "LATEDFORMzWITHJEEMFINALFORM+hINITIALFORM+dMEEMFINALFORM+hINITIALFORM+dYEHFINALFORMvKHAHINITIALFORM+aSOLATEDFOR",
    "MzWITHMEEMFINALFORM+hINITIALFORMvMEEMFINALFORMzINITIALFORM+aSOLATEDFORMzMEDIALFORMzWITHHAHFINALFORM+gINITIALFO",
    "RM+dYEHFINALFORMvYEHFINALFORMyISOLATEDFORMoMEEMWITHALEFFINALFORM+aMAKSURAISOLATEDFORMwHAHINITIALFORM+aSOLATEDF",
    "ORMzWITHJEEMINITIALFORM+dMEEMINITIALFORM+dYEHFINALFORMwJEEMINITIALFORM+bSOLATEDFORM+aWITHHAHINITIALFORM+eKHAHI",
    "NITIALFORM+eMEEMINITIALFORM+eYEHFINALFORMwKHAHINITIALFORM+bSOLATEDFORM+aWITHJEEMINITIALFORM+eMEEMINITIALFORM+e",
    "YEHFINALFORMwMEEMFINALFORM+aINITIALFORM+bSOLATEDFORM+aWITHYEHFINALFORMwYEHISOLATEDFORMpOHAMMADISOLATEDFORMoNOO",
    "NWITHALEFMAKSURAFINALFORM+hISOLATEDFORMwHAHINITIALFORM+aSOLATEDFORMzWITHALEFMAKSURAFINALFORM+dMEEMINITIALFORM+",
    "dYEHFINALFORMxEHINITIALFORMzMEDIALFORMwJEEMINITIALFORM+bSOLATEDFORM+aWITHALEFMAKSURAFINALFORM+eHAHFINALFORM+hI",
    "NITIALFORM+eMEEMFINALFORM+iINITIALFORM+eYEHFINALFORMwKHAHINITIALFORM+bSOLATEDFORMwMEEMFINALFORM+aINITIALFORM+b",
    "SOLATEDFORM+aMEDIALFORM+aWITHALEFMAKSURAFINALFORM+eYEHFINALFORMwNOONFINALFORMwREHFINALFORMwYEHFINALFORMzISOLAT",
    "EDFORMwZAINFINALFORMoQAFWITHALEFMAKSURAFINALFORM+gISOLATEDFORMvHAHINITIALFORMzSOLATEDFORMvMEEMINITIALFORM+aSOL",
    "ATEDFORMzWITHHAHFINALFORM+gINITIALFORM+dMEEMFINALFORM+dYEHFINALFORMvYEHFINALFORMyISOLATEDFORMqLAUSEDASKORANICS",
    "TOPSIGNISOLATEDFORMpUDDISASIRRAHoRADIALLAAHUANH+cAA+cUM+eAA+dNNAqHIMAHUALLAAHwMALLAAHqSOULISOLATEDFORMpEHWITHS",
    "UPERSCRIPTALEFISOLATEDFORMoSADWITHALEFMAKSURAFINALFORM+gISOLATEDFORMvHAHINITIALFORMzSOLATEDFORMyWITHHAHFINALFO",
    "RM+fINITIALFORM+cYEHFINALFORMvKHAHINITIALFORMvMEEMINITIALFORM+aSOLATEDFORMzWITHMEEMFINALFORM+hINITIALFORMvREHF",
    "INALFORMyISOLATEDFORMvYEHFINALFORMyISOLATEDFORMqLAAMUHUALAYNAAsMISOLATEDFORMrLAISOLATEDFORMtLLAAHUALAYHIWAAALI",
    "HwHOUALAYHEWASALLAMxUALAYHIWAAALIHEEWASALLAMtUSEDASKORANICSTOPSIGNISOLATEDFORMpEENWITHALEFMAKSURAFINALFORM+hIS",
    "OLATEDFORMwHAHINITIALFORM+aSOLATEDFORMzMEDIALFORMzWITHJEEMINITIALFORMxEHINITIALFORMzMEDIALFORMwJEEMINITIALFORM",
    "+bSOLATEDFORM+aMEDIALFORM+aWITHALEFMAKSURAFINALFORM+eHAHINITIALFORMwKHAHINITIALFORM+bSOLATEDFORM+aMEDIALFORM+a",
    "WITHALEFMAKSURAFINALFORM+eYEHFINALFORMwMEEMINITIALFORM+bSOLATEDFORM+aMEDIALFORM+aWITHHAHFINALFORM+hINITIALFORM",
    "+eJEEMINITIALFORM+eMEEMFINALFORM+iINITIALFORMwREHFINALFORMzISOLATEDFORMwYEHFINALFORMzISOLATEDFORMpHADDAWITHDAM",
    "MAISOLATEDFORM+dMEDIALFORM+dTANISOLATEDFORMyFATHAISOLATEDFORM+dMEDIALFORMyKASRAISOLATEDFORM+dMEDIALFORM+dTANIS",
    "OLATEDFORMySUPERSCRIPTALEFISOLATEDFORMqEENWITHALEFMAKSURAFINALFORM+iISOLATEDFORMxHAHFINALFORM+aINITIALFORM+bSO",
    "LATEDFORM+aMEDIALFORM+aWITHMEEMFINALFORM+iINITIALFORM+eYEHFINALFORMyEHINITIALFORM+aMEDIALFORMxJEEMFINALFORM+bI",
    "NITIALFORM+cSOLATEDFORM+bMEDIALFORM+bWITHYEHFINALFORMxKHAHFINALFORM+bINITIALFORM+cSOLATEDFORM+bMEDIALFORMxMEEM",
    "FINALFORM+bINITIALFORM+cSOLATEDFORM+bMEDIALFORM+bWITHKHAHFINALFORM+jINITIALFORM+fMEEMFINALFORM+jINITIALFORMxRE",
    "HFINALFORM+aISOLATEDFORMxYEHFINALFORM+aISOLATEDFORMpUBHAANAHUWATAAALAAoTABAARAKAWATAAALAAqHWITHALEFMAKSURAFINA",
    "LFORM+gISOLATEDFORMvHAHINITIALFORMzSOLATEDFORMvMEEMINITIALFORM+aSOLATEDFORMzMEDIALFORMzWITHHAHFINALFORM+gINITI",
    "ALFORM+dMEEMINITIALFORM+dYEHFINALFORMvYEHFINALFORMyISOLATEDFORMpEHWITHALEFMAKSURAFINALFORM+gISOLATEDFORMvHAHIN",
    "ITIALFORMzSOLATEDFORMyWITHJEEMFINALFORM+gINITIALFORM+cMEEMINITIALFORMwEHINITIALFORMyMEDIALFORMvJEEMINITIALFORM",
    "+aSOLATEDFORMzWITHALEFMAKSURAFINALFORM+dMEEMINITIALFORM+dYEHFINALFORMvKHAHINITIALFORM+aSOLATEDFORMzWITHALEFMAK",
    "SURAFINALFORM+dMEEMINITIALFORM+dYEHFINALFORMvMEEMFINALFORMzINITIALFORM+aSOLATEDFORMzMEDIALFORMzWITHALEFMAKSURA",
    "FINALFORM+dHAHINITIALFORM+dJEEMINITIALFORM+dKHAHINITIALFORM+dYEHFINALFORMvNOONFINALFORMvREHFINALFORMvYEHFINALF",
    "ORMyISOLATEDFORMvZAINFINALFORMpHALWITHSUPERSCRIPTALEFISOLATEDFORMqEHWITHALEFMAKSURAFINALFORM+hISOLATEDFORMwHEH",
    "MEDIALFORMwJEEMISOLATEDFORMwMEEMFINALFORM+aINITIALFORM+bSOLATEDFORM+aMEDIALFORMwNOONFINALFORMwREHFINALFORMwYEH",
    "FINALFORMzISOLATEDFORMwZAINFINALFORMoUIGHURKIRGHIZYEHWITHHAMZAABOVEWITHALEFMAKSURAFINALFORM++hINITIALFORM++iSO",
    "LATEDFORMoWASALLAMISOLATEDFORMoYEHWITHALEFMAKSURAFINALFORM+gISOLATEDFORMvHAHINITIALFORMzSOLATEDFORMyWITHYEHFIN",
    "ALFORMxMZAABOVEWITHAEFINALFORM+lISOLATEDFORM+kLEFFINALFORM+nISOLATEDFORM+nMAKSURAFINALFORM+uISOLATEDFORM+jEFIN",
    "ALFORM+kINITIALFORM+lSOLATEDFORM+jHAHINITIALFORM+nSOLATEDFORM+kEHINITIALFORM+mMEDIALFORM+jJEEMINITIALFORM+oSOL",
    "ATEDFORM+jKHAHINITIALFORM+jMEEMFINALFORM+nINITIALFORM+oSOLATEDFORM+nMEDIALFORM+jNOONFINALFORM+jOEFINALFORM+lIS",
    "OLATEDFORM+jREHFINALFORM+jUFINALFORM+kISOLATEDFORM+jWAWFINALFORM+mISOLATEDFORM+jYEHFINALFORM+mISOLATEDFORM+kUF",
    "INALFORM+lISOLATEDFORM+jZAINFINALFORMwEHINITIALFORMyMEDIALFORMvJEEMINITIALFORM+aSOLATEDFORMzWITHYEHFINALFORMvK",
    "HAHINITIALFORM+aSOLATEDFORMvMEEMFINALFORMzINITIALFORM+aSOLATEDFORMzMEDIALFORMzWITHMEEMFINALFORM+hINITIALFORM+d",
    "YEHFINALFORMvNOONFINALFORMvREHFINALFORMvYEHFINALFORMyISOLATEDFORMvZAINFINALFORMoZAHWITHMEEMINITIALFORM+aSOLATE",
    "DFORMzMEDIALFORMgMADDAHABOVElWAAJIBiRKNOONGHUNNAkSIDEWAYSNOONGHUNNAiTHEMATICALAINtLEFsBEHsDADuLtOTLESSBEHzFEHz",
    "NOONzQAFuUBLESTRUCKAIN+eBEH+eDAD+gL+eFEH+eGHAIN+eHAH+eJEEM+eKHAH+eLAM+eMEEM+eNOON+eQAF+eREH+eSAD+fEEN+fHEEN+eT",
    "AH+fEH+fHAL+gEH+eWAW+eYEH+eZAH+gINsFEHsGHAINsHAHsINITIALAINzBEHzDADzFEHzGHAINzHAH+aEHzJEEMzKAF+aHAHzLAMzMEEMzN",
    "OONzQAFzSAD+aEEN+aHEENzTEH+aHEHzYEHsJEEMsKAFtHAHsLAMtOOPEDAINzLEFyBEHyDAD+aLyFEHyGHAINyHAHzEHyJEEMyKHAHyLAMyME",
    "EMyNOONyQAFyREHySADzEENzHEENyTAHzEHzHAL+aEHyWAWyYEHyZAH+aINsMEEMsNOONsOPERATORHAHWITHDAL+aMEEMWITHHAHWITHTATWE",
    "ELsQAFsREHsSADtEENtHEENtTRETCHEDAIN+bBEH+bDAD+cOTLESSBEH+iFEH+bFEH+bGHAIN+bHAH+cEH+bJEEM+bKAF+cHAH+bMEEM+bNOON",
    "+bQAF+bSAD+cEEN+cHEEN+bTAH+cEH+cHEH+bYEH+bZAHsTAHuILEDAINyDADzOTLESSNOON+fQAFyGHAINyHAHyJEEMyKHAHyLAMyNOONyQAF",
    "ySADzEENzHEENyYEHtEHtHALuEHsWAWsYEHsZAHuINgNUMBERMARKABOVEmSIGNgOPENDAMMATANkFATHATANkKASRATANgPERCENTSIGNhIAS",
    "TREMARKABOVEhLACEOFSAJDAHhOETICVERSESIGNiUNDMARKABOVEgQUESTIONMARKgRAISEDROUNDDOTiYhEVERSEDDAMMAhIGHTARROWHEAD",
    "ABOVEzWITHDOTuBELOWhOUNDEDHIGHSTOPWITHFILLEDCENTREgSEMICOLONhHADDAmISOLATEDFORMmMEDIALFORMhIGNALAYHEASSALLAMkM",
    "ISRAkRADIALLAHOUANHUmHMATULLAHALAYHEkSAFHAmLLALLAHOUALAYHEWASSALLAMmMVATmNAHlINDHIAMPERSANDqPOSTPOSITIONMENkTA",
    "KHALLUShMALLDAMMAlFARSIYEHnTHAlHIGHAINpDOTLESSHEADOFKHAHpFARSIYEHqOOTNOTEMARKERpJEEMpLAMALEFqIGATUREALEFWITHLA",
    "MWITHYEH+fYEHBARREExQAFWITHLAMWITHALEFMAKSURAxSADWITHLAMWITHALEFMAKSURApMADDAqEEMINITIALFORMuSOLATEDFORMpNOONt",
    "WITHKASRApQAFpROUNDEDZEROpSADqEENqIGNSAFHApTAHqHREEDOTSpUPRIGHTRECTANGULARZEROpWAWqORDALJUZuNNISFuRRUBuSSAJDAu",
    "THTHALATHAtQIFtSAHvKTAtWAQFApYEHsBARREEWITHTWODOTSBELOWpZAHrINlKASRAlLOWMEEMoNOONWITHKASRAoSEENoWAWpORDIMAALAt",
    "SHMAAMsMADDAsQASRsSAKTAsTASHEELlWAWlYEHhTARTOFRUBELHIZBhUBSCRIPTALEFiKUNlBELOWlISOLATEDFORMlMEDIALFORMiPERSCRI",
    "PTALEFMOKHASSAShYMBOLDOTABOVEpBELOWoUBLEVERTICALBARBELOWmFOURDOTSABOVEuBELOWmRINGmSMALLTAHABOVEuBELOWmTHREEDOT",
    "SABOVEvBELOWvPOINTINGDOWNWARDSABOVE+mBELOWnWODOTSABOVEtBELOWtVERTICALLYABOVE+dBELOWmWASLAABOVEgTAILFRAGMENTiTW",
    "EELnWITHFATHATANABOVErOVERSTRUCKHAMZA+bWAWrTWODOTSBELOWhHOUSANDSSEPARATORhONELOOPABOVEoBELOWkONEDOTABOVEqBELOW",
    "kTWODOTSABOVErBELOWhRIPLEDOTPUNCTUATIONMARKhURNEDDAMMABELOWgVERTICALTAILhOWELSIGNDOTBELOWpINVERTEDSMALLVABOVEp",
    "SMALLVABOVEgWAVYHAMZABELOWgZWARAKAYcCcIEScMENIANABBREVIATIONMARKjPOSTROPHEiCAPITALLETTERAYBvBENvCAwHAxEHwOvDAv",
    "ECHwHwTvFEHvGHADwIMvHOvINIvJAwHEHvKEHxNvLIWNvMENvNOWvOHvPEHwIWRvRAwEHvSEHwHAvTIWNwOvVEWwOvXEHvYIxWNvZAwHEjOMMA",
    "iDRAMSIGNiEMPHASISMARKjXCLAMATIONMARKiFULLSTOPiHYPHENiMODIFIERLETTERLEFTHALFRINGiQUESTIONMARKiSMALLLETTERAYBtB",
    "ENtCAuHAvEHuOtDAtECHuHuTtFEHtGHADuIMtHOtINItJAuHEHtKEHvNtLIWNtMENtNOWtOHtPEHuIWRtRAuEHtSEHuHAtTIWNuOuURNEDAYBt",
    "VEWuOtXEHtYIvWITHSTROKEwNtZAuHEoIGATUREECHYIWNvMENECHyINIyNOWyXEHvVEWNOWcROWHEADSHAPEDPOINTERfPOINTINGDOWNWARD",
    "STHENCURVINGLEFTWARDS+hRIGHTWARDSnRIGHTWARDSTHENCURVINGDOWNWARDS+iSOUTHWEST+iUPWARDSnUPWARDSTHENNORTHWESTcTICU",
    "LATEDLORRYeSTPALETTEbSCENDINGNODEdIASYMBOLcSERTIONcTERISKiOPERATORhMdONISHEDFACEdRAEAeONOMICALSYMBOLFORURANUSc",
    "YMPTOTICALLYEQUALTObTHLETICSHOEcOMSYMBOLbUBERGINEcSTRALSIGNcTOMATEDTELLERMACHINEfOBILEeRICKSHAWbVESTANABBREVIA",
    "TIONMARKhLETTERAoApNpOoEpEoNoOnBEoHEnCEnDEoHEnEoEnFEnGEoGEoHEnHEoMEnIoInJEnKEnLEnMEnNEoGEpVEpYEoNEoYEnOoOnPEnR",
    "EnSEoHEpYEoSHEnTEoHEoTEnUoUnVEnXEoVEoYEnYEoYEnZEoHEcOCADObXE"]

/-- The names that start with B. -/
def namesB : List String :=
  ["aBABYeANGELeBOTTLEeCHICKeSYMBOLcCKOFENVELOPEeSLANTEDSOUTHARROWWITHHOOKEDTAIL+bRIZONTALTAILfPACEeTILTEDSHADOWED",
    "WHITERIGHTWARDSARROWeWITHLEFTWARDSARROWABOVEdONdTRIANCAMELcDGERdMINTONRACQUETANDSHUTTLECOCKcGELdGAGECLAIMdUETT",
    "EBREADcLINESEADEGADEGiCARIKPAMUNGKAHpRERENnSIKIiDIGITEIGHTnFIVEoOURnNINEnONEnSEVENoIXnTHREEoWOnZEROiLETTERAIKA",
    "RApKARAtTEDUNGpRCHAICJNYApSYURASASAKoBAqKEMBANGoCAqLACAoDAqMADUrURDAALPAPRANAvMAHAPRANAoEFSASAKpKARAoGAqGORAoH",
    "AoIKARAtTEDUNGoJAqJERAoKAqFSASAKqMAHAPRANApHOTSASAKoLAqLENGAvTEDUNGoMAoNAqRAMBATpGApYAoOKARAtTEDUNGoPAqKAPALoR",
    "AqREPAuTEDUNGoSAqSAGAsPAoTAqLATIKqMURDAMAHAPRANAqTAWApZIRSASAKoUKARAtTEDUNGoVESASAKoWAoYAoZALSASAKiMUSICALSYMB",
    "OLCOMBININGBENDE+eENDEP+eGONG+eJEGOGAN+eKEMPLI+kWITHJEGOGAN+iUL+kWITHJEGOGAN+eTEGEHvDAENGxINGxNGzGEDEzSURANGwE",
    "NGxUNGwINGwONGwUNGvLEFTHANDCLOSEDPLAK+lUK+dOPENPANG+iING+iUNGvRIGHTHANDCLOSEDTAK+lUK+eOPENDAG+jUGiPAMADAoLANTA",
    "NGlENENGkNTInLANTANGiSIGNBISAHmCECEKmREREKANmSURANGmULUCANDRApRICEMiVOWELSIGNLALENGAyTEDUNGrPEPETwTEDUNGrRAREP",
    "AxTEDUNGrSUKUvILUTrTALINGxREPA+bTEDUNGxTEDUNGsEDUNGrULUuSARIiWINDUdLETSHOESeOFYARNfONhSPOKEDASTERISKfTBOLDSCRI",
    "PTXiXjWITHBALLOToOLDCHECKrSCRIPTXnCHECKnLIGHTXnSCRIPTXnXgSCRIPTXgXcMUMCOLONhMBININGMARKKOQNDONsTUKWENTISiMAfFU",
    "LLSTOPfLETTERAlEElFAAMAEmEEmOMmUlIlKAmENnTnUXmImOnGHOMnVUUmPAmUmYEElLAmEEEEmImOQmUlMmAmBAAnENmEEEEnNmImOmUlNAm",
    "DAAmGAnGAnKWAENmImJAEMnEEnUAEmSHAmTEEnUUmUnAEmYIlOlPAmEEnUXmHASEAFIRIrGBIEEFONsHEUAEGHEUAExRAErKAFAtQsETtUKEUT",
    "NDAsPOQsUOQrLAPAQsETKUTsOMMAEsUtAEPrMAEKEUPuMvBGBIEEvKPENvVEUXuNYIuSItNSUAEtPPIEETsBANYIuQsEUNJOMNDEUQsGBASAsO",
    "NNGGEUAETtOMEUTvPUQsVEUAENGAMrNAAMFONtQsDAANGGEUAETuLEERAEWAsENsGANGUtGENtKUEMFONwNZEUMsIKAsJAMsKAARAEtINDIsSH",
    "AuIEEsTAPvMFAAvNTAAtOQPENsYETtIuTMONGKEUAEQsZAMFONtUNMEUTrPAAMuRAEtLEERAEWAtMSHAEtSHAEsETsONMFONPIPAEMBA+eGBIE",
    "EuPANJIPIPAEMBA+fGBIEEsUPrROMrSEUNYAMsHINDAPANJIuRAEtOQNSHUTYUMtUENSHUETuMsISAsONJAMtQtTsUUrTEUAENuTEUWENsITAM",
    "FONsUAEPtMAEMBArUNKNOWNsYUQNAErVEEqBFEEtUXrGHEUGHENyUAEMrKAMsEUAEMuPUQuYEUXsIEEMtQrLAANAEtMNSHUTNYAMsETsOMNTEU",
    "MrMAtNJEUAENAvUQAsBAARAEuMAELEEtEURItITMBAAKETtUOQsEUQuTNGGEETsFIYAQtONTEUAEQsONTIEENrNDUNJAAsGGAAMuEUMBUuUOQx",
    "LARGEtKINDIMVOPtOMsSENtHUETsTIEESHEUOQsYAEMAEtINTEUMrPARUMsEESHIsITsUNGAAMrSAKEUAEsETTUsHETNJAQuUAEQTUsIEEsUEr",
    "TAAMsUMAEMGBIEEtNSIEErVEUMrWUAETrYAFULEERAEWAsEURAEqCBUNGrFUErGBAYIsHAPuRAErKAAsENFATIGUEuLAWtTtUKAQuMuSEUXvHE",
    "UAEPsPARAQsUOPNKAARAEtTrLAMtPsIQsUrMAEMBAuSItKEUAERItNSIEEsBAACABBAGETREEvPICKETuNYItEEKEETuRAEuUMvXtIuRIEENuT",
    "tUAEMuEsGBASAQsIEEsUAErNANSANAQtQsDAMuPtEUAEREEvTtIDAtOMBUsGAQtGENuUvAENNYAMvEETvMvONtKAQuUEMAEMBAtOMsJAEMuMtE",
    "EEEuUXtUEQsSAtEUAENtHAQtOMtUNuOTNGOMsTAAtENuUNGBAtUMBITsYIRMKPARAQMEUNsZAtEUMrPENsINtRIEENrRUrSETFONtUXsHIQtUE",
    "QsUAETrTAASHAEsETtUTEUXsITAYUEuUAEPrVEUAEPENuXrWANGKUOQsUPrYAAsEUQsUMuUOMAEtWOQqDFAAsEUFEUAETrGHAAtEUAErKETtUA",
    "ETMEUNuMuOTMBUAEuPsUtNtOMtQsWAETsYEErLEEEEtTtUAEPuMsIEEsOQsUMrMsAENJETtLEERIsBAAvSEVENtUOsEEEEtUNuTsFEUAEvTtIE",
    "EtOuNsGBEUNuIEEuOFUMsONIsUsVOPrNDAMtEEuUXtONsGGAAMxAEvPuEUXuUOMuWAENtKAPuEUAEQwRIuIEEuUNuYEEsIsJAPtEUAEMvTtIuE",
    "EtUEQsSHEEuUTtIEEPwTtUMsTEEuUMtUUsUsYAMtETtItUErPAPsEEtUTAEsIPsUQtUTrRAEMsENMUCHuOLDsIIrSAPtQsEUAEQsHEEuUAEvXt",
    "IItOQtUsOTsUAEtEtUrTAEsEEEEtUAENuNuTsIsOQsUtOTrWAPsUAENrYAEMMAEsENsUOMuPtWOQqEArFAtQsEEsOMsUCALLtEuTtItREMEDYr",
    "GBETuUXsHAAMAEtETuUAEvNvXtOMrIrKETtUAEuXsIsOsPEUXsUETtOPtTrLAAMtPtQsEUAEMsOMtONuTtQsUrMAtEuMtPtQsBEEuUMsENsFEU",
    "QsGBAuENsItEEsONsUAEsVIrNAtEsDAAMYHOUSEvSOFTNESSuPtIAQuQtUNsGAtEUREUTtGEEEEvUAEyTuUAESHAENYAMvPvRAEtKAvAMIuEUA",
    "EMwXuUMvPtOPuQtUAEwTsJAEMLItEEvEPOCHuUXsKOMsSHIEEuUEvOPsTAPtUMsYIBETWEENuCLEAVERsZAQtUQrOrPAAuMtPEOPLEuLURALsE",
    "EMtUTuXsItEEQuTsOtONsUtAEuQtEtMrRAEtQsEUXsIMGBArSAAsEEtTsHEUAEQtIQtOuQsOMsUAENrTAAuQtENNTEUMtMtQsENtUuAEQsOOuN",
    "tQsUAEtMuAErVEEtUAEsOMrWEUXsUEtOrYAPsEUAEwTuMuXsIEEtTsOQCOVERuSWIMMINGsUAENtEQtNtQqFEErFOMrKAsENtTsOsPAsUsYEEr",
    "LAsIsOQrMsAsBAAtENsEEEEsOrNDAAsGGAtKWAENsIsJAEMtUAEsSHAsTEEsUtAEsYIrPEEtUXsUAErREEtNtUXsIEEtIsUrSAMBAsEUXsHIIt",
    "OtUsIsUUrTAAtEsETrUrVUEQrWAsUErYAsOQmImUAEnElRAEmEEnNnUXmIEEnImUlSAMBAmEUXmHEUXnIInOnUmImUUlTAAnEmENnTmIlUlWAm",
    "UElYAmOQmUQfNJAEMLIfQUESTIONMARKfSEMICOLONcNANAdJOdKeNOTEWITHDOLLARSIGNmEUROSIGNmPOUNDSIGNmYENSIGNcRBERPOLEdCH",
    "ARTdOFSOAPcSEBALLdKETgBALLANDHOOPdSAVAHCOMBININGHIGHLOWTONEvTONErLOWMIDTONEuTONErMIDTONEiFULLSTOPiLETTERAoBAoC",
    "EoDHIIpOoEpEpNNIoFAoGAHpBUoHWAHoIoJOoKApPAHoMBEoOpOoPAoSEoTOoUpWUoVUoWAqDDAoYEINpIEoZOcTdAKCONSONANTSIGNHsNGfL",
    "ETTERAlBAlCAlDAlGAlHAlIlJAlKAROBAlLAlMAnNDAILINGHAvNAvSAmBAlNAmDAmGAmORTHERNTAmYAlPAnKPAKWAlRAlSAmIMALUNGUNAvG",
    "AvHAvLAvMAvPAvRAvSAvWAvYAmOUTHERNTAlUlWAlYAfPANGOLATiONGONANfSIGNTOMPIgYMBOLBINDUJUDULqNAMETEKqPANGOLATrINARBO",
    "RASfVOWELSIGNEpEoIoKAROIsOoOoPAKPAKEoUpFORSIMALUNGUNSAdHeTUBdTERYbEACHWITHUMBRELLAdMEDASCENDINGMUSICALNOTESgDE",
    "SCENDINGMUSICALNOTESgEIGHTHNOTESgSIXTEENTHNOTESdNSdRDEDPERSONeFACEdTINGHEARTdVERcCAUSEcDcERMUGdTLEcLdLeHOPBELL",
    "ePEPPEReSYMBOLeWITHCANCELLATIONSTROKEcNGALIABBREVIATIONSIGNiNJIiULENGTHMARKhCURRENCYDENOMINATORSIXTEENpNUMERAT",
    "ORFOURyONE+bLESSTHANTHEDENOMINATORyTHREEzWOhDIGITEIGHTmFIVEnOURmNINEmONEmSEVENnIXmTHREEnWOmZEROhGANDAMARKhISSH",
    "ARhLETTERAoAoIoUnBAoHAnCAoHAnDAoDApHAoHAnEnGAoHAnHAnIoInJAoHAnKAoHAqNDATAnLAnMAnNAoGAoNAoYAnOnPAoHAnRApWITHLOW",
    "ERDIAGONALtMIDDLEDIAGONALoHAoRAnSAoHAoSAnTAoHAoTApHAnUoUnVEDICANUSVARAoOCALICLvLuRvRnYAoYAhRUPEEMARKmSIGNhSAND",
    "HIMARKiIGNANUSVARAmVAGRAHAlCANDRABINDUlNUKTAlVIRAMAnSARGAhVOWELSIGNAArIrUqEqIrIqOqUrUqVOCALICLyLxRyRdTARROWPOI",
    "NTINGDOWNWARDSTHENNORTHEASTeOBOXdZENERINGlWITHCIRCLEcTSYMBOLdWEENcVERAGEBOXbHAIKSUKIDANDAkIGITEIGHToFIVEpOURoN",
    "INEoONEoSEVENpIXoTHREEpWOoZEROkOUBLEDANDAjGAPFILLER1s2jHUNDREDSUNITMARKjLETTERAqAqIqUpBAqHApCAqHApDAqDArHAqHAp",
    "EpGAqHApHApIqIpJAqHApKAqHApLApMApNAqGAqNAqYApOpPAqHApRApSAqHAqSApTAqHAqTArHApUqUpVAqOCALICLwRxRpYAjNUMBEREIGHT",
    "uYpFIFTYrVEqORTYrURpNINEtTYpONEpSEVENuTYqIXsTYpTENqHIRTYrREEqWENTYrOjSIGNANUSVARAoVAGRAHAnCANDRABINDUnVIRAMApS",
    "ARGAjVOWELSIGNAAtItUsEsItIsOsUtUsVOCALICLzR+aRjWORDSEPARATORbICYCLEgISTcGREVERSESOLIDUSdSOLIDUScKINIcLLEDCAPeI",
    "ARDScOHAZARDSIGNcRDdTHDAYCAKEcSONcTCOINSIGNdINGLIPbLACKBOWTIEfCENTREWHITESTARgHESSBISHOPqROTATEDNINETYDEGREESx",
    "TWOHUNDREDSEVENTYDEGREESkEQUIHOPPERuROTATEDNINETYDEGREESkKINGoROTATEDNINETYDEGREESvTWOHUNDREDSEVENTYDEGREESlNI",
    "GHTqBISHOPqQUEENqROOKsTATEDFORTYFIVEDEGREESxNINETYDEGREESxONEHUNDREDTHIRTYFIVEDEGREESxTHREEHUNDREDFIFTEENDEGRE",
    "ESyWOHUNDREDSEVENTYDEGREES+hTWENTYFIVEDEGREESkPAWNoROTATEDNINETYDEGREESvTWOHUNDREDSEVENTYDEGREESkQUEENpROTATED",
    "NINETYDEGREESwTWOHUNDREDSEVENTYDEGREESkROOKoROTATEDNINETYDEGREESvTWOHUNDREDSEVENTYDEGREESkTURNEDBISHOPqKINGrNI",
    "GHTqPAWNqQUEENqROOKgIRCLElFORRECORDlWITHDOWNARROWpTWOWHITEDOTSpWHITEDOTRIGHTgLUBSUITgROSSONSHIELDgURVEDDOWNWAR",
    "DSANDLEFTWARDSARROWxRIGHTWARDSARROWlLEFTWARDSANDDOWNWARDSARROWxUPWARDSARROWlRIGHTWARDSANDDOWNWARDSARROWyUPWARD",
    "SARROWlUPWARDSANDLEFTWARDSARROWvRIGHTWARDSARROWfDIAMONDmCENTREDmMINUSWHITEXmONCROSSmSUITmWITHDOWNARROWgOWNPOIN",
    "TINGBACKHANDINDEXrDOUBLETRIANGLErISOSCELESRIGHTTRIANGLErSMALLTRIANGLErTRIANGLEjWARDSEQUILATERALARROWHEADgRAUGH",
    "TSKINGnMANhOPLETfFEATHEREDNORTHEASTARROWoRIGHTWARDSARROWoSOUTHEASTARROWgLAGhORETTEgOLDERhURPOINTEDSTARfHARDSHE",
    "LLFLOPPYDISKgEARTkSUIThXAGONgORIZONTALELLIPSEhURGLASSfLARGECIRCLEkSQUAREgEFTLANEMERGEjPOINTINGBACKHANDINDEXrDO",
    "UBLETRIANGLE+fWITHVERTICALBARrINDEXsSOSCELESRIGHTTRIANGLErPOINTERrSMALLTRIANGLErTRIANGLEjWARDSBULLEToEQUILATER",
    "ALARROWHEADhTTERCAPITALCsHsIsRsZgOWERLEFTTRIANGLEkRIGHTTRIANGLEhZENGEfMEDIUMDIAMONDmOWNPOINTINGTRIANGLE+fCENTR",
    "EDlLEFTPOINTINGTRIANGLE+fCENTREDmOZENGElRIGHTPOINTINGTRIANGLE+gCENTREDlSMALLDIAMONDqLOZENGEqSQUAREmQUARElUPPOI",
    "NTINGTRIANGLE+dCENTREDgOONLILITHfNIBfOCTAGONfPARALLELOGRAMgENNANTiTAGONgUSHPINfQUESTIONMARKORNAMENTfRECTANGLEg",
    "IGHTPOINTINGBACKHANDINDEXsDOUBLETRIANGLE+gWITHVERTICALBARsINDEXtSOSCELESRIGHTTRIANGLEsPENTAGONtOINTERsSMALLTRI",
    "ANGLEsTRIANGLE+aWITHDOUBLEVERTICALBARkWARDSARROWuHEADpBULLETpEQUILATERALARROWHEADgOSETTEfSAFETYSCISSORSgCISSOR",
    "SgHOGIPIECEgKULLANDCROSSBONESgLIGHTLYSMALLCIRCLEsSQUAREgMALLDIAMONDkLOZENGEkSQUARElTARhILINGFACEgNOWMANgPADESU",
    "ITgQUARElBUTTONlCENTREDlFORSTOPgTARgUNWITHRAYSfTELEPHONEgINYDIAMONDjLOZENGEjSQUAREgOUCHTONETELEPHONEgRUCKgWOWA",
    "YLEFTWAYTRAFFICfUNIVERSALRECYCLINGSYMBOLgPPERLEFTTRIANGLEkRIGHTTRIANGLEiOINTINGBACKHANDINDEXpDOUBLETRIANGLEpIS",
    "OSCELESRIGHTTRIANGLEpSMALLTRIANGLEpTRIANGLEhWARDSEQUILATERALARROWHEADfVERTICALELLIPSEnRECTANGLEiYSMALLDIAMONDo",
    "LOZENGEoSQUAREdNKSYMBOLcOCKSEXTANT1n2o3p4q5q6p5q6p6o4p5q6p6o5p6o6n3o4p5q6p6o56o6n4o5p6o6n5o6n6m2n3o4p5q6p6o5p6",
    "o6n4o5p6n5o6n6m3n4o5p6o6n5o6n6m4n5o6n6m5n6m6dSSOMdWFISHcUEBERRIESfOOKeHEARTbOARcLDEIGHTSPOKEDASTERISKeFIVESPOK",
    "EDASTERISKeGREEKCROSSeSALTIREfIXSPOKEDASTERISKeWHITECIRCLEjSQUAREcMdBcNEcOKeMARKiTABSeSdMERANGcPOMOFOFINALLETT",
    "ERGtHtKtPtTiLETTERApHpIqNNpMpNqGqNpUqNNoBpUoCpHoDoEpEpHpIpNqGqNpRoFoGpHpNpUpWoHoIpHpMpNNrNpRpUoJpIoKpWoLpHoMoN",
    "pGqGpNoOpEpMpNGqNpOpUpWITHDOTABOVEoPoQoRoSpHoToUpNNoVoXoZpHpIpYcTTLEWITHPOPPINGCORKeOMARCANTICLOCKWISEARROWgCU",
    "RLYBRACKETgHALFBLACKCIRCLEkINTEGRALkLEFTPARENTHESISkRIGHTPARENTHESISgLEFTCORNERlROPkHALFBRACKETgPARENTHESISgRI",
    "GHTCORNERmROPlHALFBRACKETgSQUAREBRACKETtOVERTOPSQUAREBRACKETgTORTOISESHELLBRACKETcUQUEThOFFLOWERScWANDARROWdLI",
    "NGeOFHYGIEIAeWITHSPOONdTIEgWITHLEFTHALFBLACKkRIGHTHALFBLACKcXDRAWINGSDOUBLEDOWNANDHORIZONTALyLEFTyRIGHTrHORIZO",
    "NTALrUPANDHORIZONTALwLEFTwRIGHTrVERTICALzANDHORIZONTAL+cLEFT+cRIGHTnWNDOUBLEANDHORIZONTALSINGLEyLEFTSINGLEyRIG",
    "HTSINGLEpHEAVYANDHORIZONTALLIGHTxLEFTLIGHT+bUPLIGHTxRIGHTLIGHT+cUPLIGHTxUPHORIZONTALLIGHTpLIGHTANDHORIZONTALHE",
    "AVYxLEFTHEAVY+bUPHEAVYxRIGHTHEAVY+cUPHEAVYxUPHORIZONTALHEAVYpSINGLEANDHORIZONTALDOUBLEyLEFTDOUBLEyRIGHTDOUBLEl",
    "HEAVYDOUBLEDASHHORIZONTAL+aVERTICALsWNuANDHORIZONTALxLEFTxRIGHTqHORIZONTALqLEFTuANDLIGHTRIGHTqQUADRUPLEDASHHOR",
    "IZONTAL+dVERTICALqRIGHTqTRIPLEDASHHORIZONTAL+aVERTICALqUPsANDHORIZONTALvLEFTwIGHTDOWNvRIGHTqVERTICALyANDHORIZO",
    "NTAL+bLEFT+bRIGHTlLEFTDOWNHEAVYANDRIGHTUPLIGHTpHEAVYANDRIGHTDOWNLIGHT+cUPLIGHT+cVERTICALLIGHTpLIGHTANDRIGHTDOW",
    "NHEAVY+cUPHEAVY+cVERTICALHEAVYpUPHEAVYANDRIGHTDOWNLIGHTmIGHTARCDOWNANDLEFT+aRIGHTtUPANDLEFTyRIGHTqDIAGONALCROS",
    "SyDIAMONDyMIDDLELEFTTOLOWERCENTRE+vTOMIDDLERIGHT+kUPPERCENTRETOMIDDLERIGHT++iTOLOWERCENTRE+eRIGHTTOLOWERCENTRE",
    "+lUPPERCENTRETOMIDDLELEFTTOLOWERCENTREyUPPERCENTRETOMIDDLELEFT+vANDMIDDLERIGHTTOLOWERCENTRE+vTOLOWERCENTRE++iT",
    "OMIDDLERIGHT+rRIGHT+wANDMIDDLELEFTTOLOWERCENTRE+wTOLOWERCENTRE++jTOMIDDLELEFT+dLEFTTOLOWERRIGHT+dRIGHTTOLOWERL",
    "EFTrOUBLEDASHHORIZONTAL+aVERTICALsWNuANDHORIZONTALxLEFTxRIGHTqHORIZONTAL+aWITHVERTICALSTROKEqLEFTuANDHEAVYRIGH",
    "TqQUADRUPLEDASHHORIZONTAL+dVERTICALqRIGHTqTRIPLEDASHHORIZONTAL+aVERTICALqUPsANDHEAVYDOWNwORIZONTALvLEFTvRIGHTq",
    "VERTICALyANDHORIZONTAL+bLEFT+bRIGHTlRIGHTDOWNHEAVYANDLEFTUPLIGHTqHEAVYANDLEFTDOWNLIGHT+cUPLIGHT+cVERTICALLIGHT",
    "qLIGHTANDLEFTDOWNHEAVY+cUPHEAVY+cVERTICALHEAVYqUPHEAVYANDLEFTDOWNLIGHTlUPDOUBLEANDHORIZONTALSINGLEwLEFTSINGLEw",
    "RIGHTSINGLEnHEAVYANDDOWNHORIZONTALLIGHTvHORIZONTALLIGHTvLEFTDOWNLIGHTzLIGHTvRIGHTDOWNLIGHT+aLIGHTnLIGHTANDDOWN",
    "HORIZONTALHEAVYvHORIZONTALHEAVYvLEFTDOWNHEAVYzHEAVYvRIGHTDOWNHEAVY+aHEAVYnSINGLEANDHORIZONTALDOUBLEwLEFTDOUBLE",
    "wRIGHTDOUBLElVERTICALDOUBLEANDHORIZONTALSINGLE+cLEFTSINGLE+cRIGHTSINGLEtHEAVYANDHORIZONTALLIGHT+bLEFTLIGHT+bRI",
    "GHTLIGHTtLIGHTANDHORIZONTALHEAVY+bLEFTHEAVY+bRIGHTHEAVYtSINGLEANDHORIZONTALDOUBLE+cLEFTDOUBLE+cRIGHTDOUBLEdING",
    "GLOVEcYdSSYMBOLbPHbRAHMIDANDAhIGITEIGHTlFIVEmOURlNINElONElSEVENmIXlTHREEmWOlZEROhOUBLEDANDAgLETTERAnAnInUmBAnH",
    "AmCAnHAmDAnDAoHAnHAmEmGAnHAmHAmInImJAnHAmKAnHAmLAnLAmMAmNAnGAnNAnYAmOnLDTAMILLLAwLAuNNNAuRRAuSHORTEzOmPAnHAmRA",
    "mSAnHAnSAmTAnHAnTAoHAmUnUmVAnOCALICLuLtRuRmYAgNUMBEREIGHTrYmFIFTYoVEnORTYoURmJOINERmNINEqTYmONEpHUNDREDpTHOUSA",
    "NDmSEVENrTYnIXpTYmTENnHIRTYoREEnWENTYoOgPUNCTUATIONCRESCENTBARrDOTtUBLEDOTrLINEsOTUSgSIGNANUSVARAkCANDRABINDUk",
    "JIHVAMULIYAkOLDTAMILVIRAMAkUPADHMANIYAkVISARGAgVIRAMAhOWELSIGNAAqIqUpBHATTIPROLUAApEpIqIpOqLDTAMILSHORTE+cOpUq",
    "UpVOCALICLxLwRxRdILLEPATTERNBLANKoDOTS1t2u3v4w5x6y7z8y8x7y8x8w6x7y8x8w7x8w8v5w6x7y8x8w7x8w8v6w7x8w8v7w8v8u4v5w",
    "6x7y8x8w7x8w8v6w7x8w8v7w8v8u5v6w7x8w8v7w8v8u6v7w8v8u7v8u8t3u4v5w6x7y8x8w7x8w8v6w7x8w8v7w8v8u5v6w7x8w8v7w8v8u6v",
    "7w8v8u7v8u8t4u5v6w7x8w8v7w8v8u6v7w8v8u7v8u8t5u6v7w8v8u7v8u8t6u7v8u8t7u8t8s2t3u4v5w6x7y8x8w7x8w8v6w7x8w8v7w8v8u",
    "5v6w7x8w8v7w8v8u6v7w8v8u7v8u8t4u5v6w7x8w8v7w8v8u6v7w8v8u7v8u8t5u6v7w8v8u7v8u8t6u7v8u8t7u8t8s3t4u5v6w7x8w8v7w8v",
    "8u6v7w8v8u7v8u8t5u6v7w8v8u7v8u8t6u7v8u8t7u8t8s4t5u6v7w8v8u7v8u8t6u7v8u8t7u8t8s5t6u7v8u8t7u8t8s6t7u8t8s7t8s8eNc",
    "EADeKPERMITTEDHEREeSTFEEDINGdVEcICKdDEWITHVEILeGEATNIGHTdEFCASEfScOCCOLIdKENBARgCIRCLEWITHNORTHWESTARROWgHEART",
    "dOMdWNHEARTbSbUBBLESgTEAcCKETcGdINESEENDOFSECTIONiLETTERAoBAoCAoDAoGAoHAoJAoKAoLAoMApPAoNApGAqKApRApYAqCAoPAoR",
    "AoSAoTAoVAoYAiPALLAWAiVOWELSIGNAErErIrOrUcHIDLETTERAlBAlDAlGAlHAlIlKAlLAlMAlNAmGAlPAlRAlSAlTAlUlWAlYAfVOWELSIG",
    "NIoUcILDINGCONSTRUCTIONcLLETgOPERATOReHORNiWITHSOUNDWAVESeSEYEcRRITOcSdSTOPdTINSILHOUETTEeSINSILHOUETTEcTTERgF",
    "LYbYTEORDERMARKcZANTINEMUSICALSYMBOLAGOGIARGI+eOTERI+bGORGI+fOTERI+bMESI+dTRIA+bPOLIARGI+fGORGIxNATRICHISMAyTI",
    "KENOKYLISMA+eMAxPESOEKFONITIKON+cXONEOyLIyODERMAARCHAION+eNEOzSTROFOISYNDESMOSNEO+gTELOUSICHIMATOS+fS+gDIPLI+g",
    "NEOzTHEMAxRGON+aSYNTHETONyKTIKODI+dGA+dKE+dNI+dPA+dVOU+dZOwCHAMILI+cONyOREVMAARCHAION+eNEOyROAKLITON+bSPATHI+b",
    "ZYGOSwDASEIAxIARGONzSTOLIAPLIMEGALI+jIKRI+eDIPLI+eTHESEOSyESISAPLIDYODODEKATA+cDIGRAMMOSEXDODEKATA+cMONOGRAMMO",
    "STESSERADODEKATA+cTETARTIMORION+dRIGRAMMOSOKTODODEKATA+fTIMORIONyFTOGGOSOUyGORGON+ePARESTIGMENONARISTERAANO+zK",
    "ATO+rDEXIAzRAMMAGGyPLI+bARCHAIONxYOwEKSTREPTONxLAFRONxNARXISKAIFTHORAVOUyDOFONONxPEGERMAxTERONARGOSYNTHETON+cP",
    "ARAKALESMAxXOEKFONITIKONwFANEROSISDIFONIAS+fMONOFONIAS+fTETRAFONIASxHTORASKLIRONCHROMAVASISxTHORAARCHAION+kDEY",
    "TEROUICHOU+cDIATONIKIDI+lKE+lNANA+mIANO+nKATO+lPA+lZO+cENARMONIOSANTIFONIA+cIYFESISTETARTIMORION+cMALAKONCHROM",
    "ADIFONIAS+pMONOFONIAS+cNAOSICHOS+dENANO+cSKLIRONCHROMASYNAFI+pVASIS+jDIATONONDIwGENIKIDIESIS+cYFESISxORGONARCH",
    "AION+cNEOANO+fKATO+cPARESTIGMENONARISTERA+pDEXIA+bSYNTHETONzTHMIKONNAPLOUN+hDIPLOUNxRONTHISMATAwICHADINxMIDIAR",
    "GONzFONON+aTHORA+eONxSAKIATELOUSICHIMATOSyONARCHAION+aNEOwKATAVASMA+cTROMIKONzHISTIxENTIMAARCHAION+dNEOANO+gKA",
    "TO+gMESO+dTA+fARCHAION+fNEOANO+iKATO+iMESOxLASMA+cANO+cKATOxONTEVMA+eALLOyRONISyUFISMAxRATIMAALLO+eRCHAION+dNE",
    "O+dTA+cOKOUFISMA+dYPORROONyEMASTIxYLISMAwLEIMMADYOCHRONON+cENOSCHRONOU+cIMISEOSCHRONOU+cTESSARONCHRONON+dRIONC",
    "HRONONyMOIxYGISMAwMARTYRIAALLIDEYTEROSICHOS+iPROTOSICHOS+eDEYTEROSICHOS+eLEGETOSICHOS+ePLAGIOSICHOS+lTETARTOSI",
    "CHOS+fROTOSICHOS+jVARYSICHOS+eTETARTOSICHOS+mLEGETOSICHOS+fRIFONIAS+hTOSICHOS+eVARYSICHOSxIKRONISONwNANAwOLIGO",
    "NARCHAION+cNEOxMALONxXEIADIPLI+bEKFONITIKON+bIARCHAION+bNEOxYRANISMAARCHAION+fNEOwPARAKALESMAARCHAION+hNEO+bLI",
    "TIKI+hARCHAION+hNEOzICHONxELASTON+eNEOyRISPOMENIyTASMA+bTI+cOKOUFISMAxIASMAARCHAION+cNEOxSIFISTOLYGISMA+eN+fNE",
    "O+ePARAKALESMA+eSYNAGMAzLI+aONwRAPISMAxEVMAwSAXIMATAxEISMA+cNEOxIMANSISARSEOS+kDISIMOU+kTETRASIMOU+lRISIMOU+eT",
    "HESEOS+lDISIMOU+lTETRASIMOU+mRISIMOUxTAVROS+dAPODEXIAyIGMAyRAGGISMATAxYNAGMAARCHAION+dMETASTAVROU+dNEOzEVMAyRM",
    "A+bTIKIwTELEIAySSERAyTRAPLIxHEMA+bAPLOUN+bTISMOSESO+iXOzSKAIAPOTHESyITAxINAGMAxRIAzGORGONzPLIyOMIKOLYGISMA+dNA",
    "LLO+fRCHAION+eNEO+dPARAKALESMA+eSIFISTON+dSYNAGMAwVAREIADIPLI+cEKFONITIKON+cIARCHAION+cNEOyTHYwXIRONKLASMAwYFE",
    "NANO+aKATOzSISAPLIDYODODEKATA+cDIGRAMMOSEXDODEKATA+cMONOGRAMMOSTESSERADODEKATA+cTRIGRAMMOSOKTODODEKATA+fTIMORI",
    "ONxPOKRISIS+fDIPLIzRROIySILI"]

end CharacterName

end Text

end PythonAudit
